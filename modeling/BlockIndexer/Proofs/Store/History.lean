import BlockIndexer.Proofs.Store.Rows

/-! Histories of a store: any number of inserts and planted failures, with reads between them. An
insert ends in one of four ways, three of which leave the tables alone. After every history of an
empty store the tables are consistent, so that the greatest height and the greatest sequence are
those of the stored blocks. -/

namespace BlockIndexer

/-- What is done to a store. A read answers from the tables and changes nothing. -/
inductive Operation where
  | insert (b : Block)
  | plantFailure (height position : Nat)
  | read

namespace Store

def apply (s : Store) : Operation → Store
  | .insert b => (s.insert b).2
  | .plantFailure height position => s.plantFailure height position
  | .read => s

def run (s : Store) (ops : List Operation) : Store := ops.foldl apply s

theorem run_append (s : Store) (ops more : List Operation) :
    s.run (ops ++ more) = (s.run ops).run more :=
  List.foldl_append

variable {s : Store} {b : Block} {rows : BlockRows}

/-- The first of `count` positions of a block at which a failure is planted. -/
def plantedFailure? (s : Store) (height count : Nat) : Option Nat :=
  (List.range count).find? fun position => s.failures.contains (height, position)

/-- Taking a failure that is not planted leaves the store as it is. -/
theorem takeFailure_of_not_planted {height position : Nat}
    (h : s.failures.contains (height, position) = false) :
    s.takeFailure height position = (false, s) := by
  have kept : s.failures.filter (· ≠ (height, position)) = s.failures := by
    refine List.filter_eq_self.mpr fun key mem => decide_eq_true fun eq => ?_
    rw [← eq, List.contains_iff_mem.mpr mem] at h
    contradiction
  rw [takeFailure, kept, h]

/-- Staging ends at the first transaction at which a failure is planted, or comes to what it would
if there were no failures. -/
theorem stage_eq (s : Store) (height position : Nat) (staged : Staged × Outcome)
    (txs : List TransactionRows) :
    s.stage height position staged txs =
      match (List.range' position txs.length).find? fun p => s.failures.contains (height, p) with
      | some p => (.error (injectedFailure height p), (s.takeFailure height p).2)
      | none => (.ok (txs.foldl (Staged.addTransaction s.tables) staged), s) := by
  induction txs generalizing position staged with
  | nil => rfl
  | cons tx txs ih =>
    rw [List.length_cons, List.range'_succ]
    cases planted : s.failures.contains (height, position) with
    | true =>
      have fires : s.takeFailure height position = (true, (s.takeFailure height position).2) :=
        Prod.ext planted rfl
      rw [stage, fires, List.find?_cons, planted]
    | false =>
      rw [stage, takeFailure_of_not_planted planted, List.find?_cons, planted]
      exact ih (position + 1) _

/-- An insert whose failures are looked for before anything is staged. -/
theorem insert_eq (h : b.toRows s.policy = .ok rows) (absent : s.contains rows.height = false) :
    s.insert b =
      match s.plantedFailure? rows.height rows.transactions.length with
      | some position =>
        (.error (injectedFailure rows.height position),
          { s with failures := s.failures.filter (· ≠ (rows.height, position)) })
      | none =>
        (.ok (s.tables.addRows rows).2, { s with tables := (s.tables.addRows rows).1 }) := by
  simp only [insert, h, show s.tables.contains rows.height = false from absent, stage_eq,
    plantedFailure?, List.range_eq_range', Bool.false_eq_true, if_false]
  cases (List.range' 0 rows.transactions.length).find? fun p =>
    s.failures.contains (rows.height, p) with
  | some position => rfl
  | none => rfl

theorem insert_unmapped {e : Error} (h : b.toRows s.policy = .error e) :
    s.insert b = (.error e, s) := by
  simp only [insert, h]

theorem insert_repeated (h : b.toRows s.policy = .ok rows)
    (stored : s.contains rows.height = true) :
    s.insert b = (.ok (.alreadyIndexed rows.height), s) := by
  simp only [insert, h]
  exact if_pos stored

theorem insert_failed {position : Nat} (h : b.toRows s.policy = .ok rows)
    (absent : s.contains rows.height = false)
    (planted : s.plantedFailure? rows.height rows.transactions.length = some position) :
    s.insert b = (.error (injectedFailure rows.height position),
      { s with failures := s.failures.filter (· ≠ (rows.height, position)) }) := by
  rw [insert_eq h absent, planted]

theorem insert_written (h : b.toRows s.policy = .ok rows)
    (absent : s.contains rows.height = false)
    (unplanted : s.plantedFailure? rows.height rows.transactions.length = none) :
    s.insert b =
      (.ok (s.tables.addRows rows).2, { s with tables := (s.tables.addRows rows).1 }) := by
  rw [insert_eq h absent, unplanted]

/-- An insert finds that the block does not map, finds the height stored, fails at a planted
failure, or writes the rows. -/
theorem insert_cases (s : Store) (b : Block) :
    (∃ e, b.toRows s.policy = .error e) ∨
    (∃ rows, b.toRows s.policy = .ok rows ∧ s.contains rows.height = true) ∨
    (∃ rows position, b.toRows s.policy = .ok rows ∧ s.contains rows.height = false ∧
      s.plantedFailure? rows.height rows.transactions.length = some position) ∨
    ∃ rows, b.toRows s.policy = .ok rows ∧ s.contains rows.height = false ∧
      s.plantedFailure? rows.height rows.transactions.length = none := by
  cases h : b.toRows s.policy with
  | error e => exact .inl ⟨e, rfl⟩
  | ok rows =>
    cases hs : s.contains rows.height with
    | true => exact .inr (.inl ⟨rows, rfl, hs⟩)
    | false =>
      cases hp : s.plantedFailure? rows.height rows.transactions.length with
      | some position => exact .inr (.inr (.inl ⟨rows, position, rfl, hs, hp⟩))
      | none => exact .inr (.inr (.inr ⟨rows, rfl, hs, hp⟩))

theorem plantedFailure?_eq_none (clean : s.failures = []) (height count : Nat) :
    s.plantedFailure? height count = none := by
  simp [plantedFailure?, clean]

/-- Without planted failures, an insert does not fail once the block maps. -/
theorem insert_cases_of_clean (clean : s.failures = []) (b : Block) :
    (∃ e, b.toRows s.policy = .error e) ∨
    (∃ rows, b.toRows s.policy = .ok rows ∧ s.contains rows.height = true) ∨
    ∃ rows, b.toRows s.policy = .ok rows ∧ s.contains rows.height = false ∧
      s.plantedFailure? rows.height rows.transactions.length = none := by
  rcases s.insert_cases b with h | h | ⟨rows, position, -, -, hp⟩ | h
  · exact .inl h
  · exact .inr (.inl h)
  · rw [plantedFailure?_eq_none clean] at hp
    contradiction
  · exact .inr (.inr h)

@[simp] theorem policy_insert (s : Store) (b : Block) : (s.insert b).2.policy = s.policy := by
  rcases s.insert_cases b with ⟨e, h⟩ | ⟨rows, h, hs⟩ | ⟨rows, position, h, hs, hp⟩ |
    ⟨rows, h, hs, hp⟩
  · rw [insert_unmapped h]
  · rw [insert_repeated h hs]
  · rw [insert_failed h hs hp]
  · rw [insert_written h hs hp]

/-- The tables after an insert are the tables before it, or these with the rows of the block, whose
height was not stored. -/
theorem tables_insert (s : Store) (b : Block) :
    (s.insert b).2.tables = s.tables ∨
    ∃ rows, b.toRows s.policy = .ok rows ∧ s.contains rows.height = false ∧
      s.insert b = (.ok (s.tables.addRows rows).2,
        { s with tables := (s.tables.addRows rows).1 }) := by
  rcases s.insert_cases b with ⟨e, h⟩ | ⟨rows, h, hs⟩ | ⟨rows, position, h, hs, hp⟩ |
    ⟨rows, h, hs, hp⟩
  · exact .inl (by rw [insert_unmapped h])
  · exact .inl (by rw [insert_repeated h hs])
  · exact .inl (by rw [insert_failed h hs hp])
  · exact .inr ⟨rows, h, hs, insert_written h hs hp⟩

theorem consistent_insert (c : s.tables.Consistent) (b : Block) :
    (s.insert b).2.tables.Consistent := by
  rcases s.tables_insert b with h | ⟨rows, hrows, absent, h⟩
  · rw [h]
    exact c
  · rw [h]
    exact c.addRows (Block.wellFormed_of_toRows hrows) absent

theorem consistent_apply (c : s.tables.Consistent) (op : Operation) :
    (s.apply op).tables.Consistent := by
  cases op with
  | insert b => exact consistent_insert c b
  | plantFailure height position => exact c
  | read => exact c

theorem consistent_run (c : s.tables.Consistent) (ops : List Operation) :
    (s.run ops).tables.Consistent := by
  induction ops generalizing s with
  | nil => exact c
  | cons op ops ih => exact ih (consistent_apply c op)

@[simp] theorem policy_run (s : Store) (ops : List Operation) :
    (s.run ops).policy = s.policy := by
  induction ops generalizing s with
  | nil => rfl
  | cons op ops ih =>
    refine (ih (s.apply op)).trans ?_
    cases op with
    | insert b => exact policy_insert s b
    | plantFailure height position => rfl
    | read => rfl

end Store

namespace Tables

variable {t : Tables}

/-- A height has one row. -/
theorem Consistent.block?_eq_some_iff (c : t.Consistent) {height : Nat} {row : BlockRow} :
    t.block? height = some row ↔ (height, row) ∈ t.blocks := by
  rw [block?, List.lookup_eq_some_iff]
  constructor
  · rintro ⟨before, after, heq, -⟩
    simp [heq]
  · intro hmem
    obtain ⟨before, after, heq⟩ := List.append_of_mem hmem
    refine ⟨before, after, heq, fun b hb => ?_⟩
    have sorted := c.sorted
    rw [heq, List.pairwise_append] at sorted
    have := sorted.2.2 b hb (height, row) List.mem_cons_self
    simp only [bne_iff_ne, ne_eq]
    omega

end Tables

namespace Store

variable {s : Store}

theorem maxHeight?_eq_some_iff (c : s.tables.Consistent) {m : Nat} :
    s.maxHeight? = some m ↔ (∃ h row, s.block? h = some row ∧ row.id = m) ∧
      ∀ h row, s.block? h = some row → row.id ≤ m := by
  simp only [maxHeight?, heights, List.max?_eq_some_iff, block?, c.block?_eq_some_iff]
  constructor
  · rintro ⟨hmem, hle⟩
    obtain ⟨⟨h, row⟩, hb, rfl⟩ := List.mem_map.mp hmem
    refine ⟨⟨h, row, hb, c.id_eq _ hb⟩, fun h' row' hb' => ?_⟩
    rw [c.id_eq _ hb']
    exact hle h' (List.mem_map_of_mem hb')
  · rintro ⟨⟨h, row, hb, rfl⟩, hle⟩
    rw [c.id_eq _ hb] at hle ⊢
    refine ⟨List.mem_map_of_mem hb, fun h' hh' => ?_⟩
    obtain ⟨⟨_, row'⟩, hb', rfl⟩ := List.mem_map.mp hh'
    exact c.id_eq _ hb' ▸ hle _ row' hb'

theorem maxHeight?_eq_none_iff (c : s.tables.Consistent) :
    s.maxHeight? = none ↔ ∀ h, s.block? h = none := by
  simp only [maxHeight?, heights, List.max?_eq_none_iff, List.map_eq_nil_iff, block?]
  constructor
  · intro hnil h
    simp [Tables.block?, hnil]
  · intro hnone
    refine List.eq_nil_iff_forall_not_mem.mpr fun b hb => ?_
    have := c.block?_eq_some_iff.mpr hb
    rw [hnone] at this
    contradiction

theorem mem_sequences (c : s.tables.Consistent) {n : Nat} :
    n ∈ s.tables.blocks.filterMap (·.2.sequence) ↔
      ∃ h row, s.block? h = some row ∧ row.sequence = some n := by
  simp only [List.mem_filterMap, block?, c.block?_eq_some_iff, Prod.exists]

theorem maxSequence?_eq_some_iff (c : s.tables.Consistent) {m : Nat} :
    s.maxSequence? = some m ↔ (∃ h row, s.block? h = some row ∧ row.sequence = some m) ∧
      ∀ h row n, s.block? h = some row → row.sequence = some n → n ≤ m := by
  rw [maxSequence?, List.max?_eq_some_iff, mem_sequences c]
  refine and_congr_right fun _ => ?_
  constructor
  · intro hle h row n hb hn
    exact hle n ((mem_sequences c).mpr ⟨h, row, hb, hn⟩)
  · intro hle n hn
    obtain ⟨h, row, hb, hseq⟩ := (mem_sequences c).mp hn
    exact hle h row n hb hseq

theorem maxSequence?_eq_none_iff (c : s.tables.Consistent) :
    s.maxSequence? = none ↔ ∀ h row, s.block? h = some row → row.sequence = none := by
  rw [maxSequence?, List.max?_eq_none_iff, List.eq_nil_iff_forall_not_mem]
  constructor
  · intro hnone h row hb
    cases hseq : row.sequence with
    | none => rfl
    | some n => exact absurd ((mem_sequences c).mpr ⟨h, row, hb, hseq⟩) (hnone n)
  · intro hnone n hn
    obtain ⟨h, row, hb, hseq⟩ := (mem_sequences c).mp hn
    rw [hnone h row hb] at hseq
    contradiction

/-- After every history of an empty store the tables are consistent, and the greatest height and
the greatest sequence are those of the stored block rows. -/
theorem history_consistent (policy : NumericPolicy) (ops : List Operation) :
    let s := (empty policy).run ops
    s.tables.Consistent ∧
    (∀ m, s.maxHeight? = some m ↔ (∃ h row, s.block? h = some row ∧ row.id = m) ∧
      ∀ h row, s.block? h = some row → row.id ≤ m) ∧
    (s.maxHeight? = none ↔ ∀ h, s.block? h = none) ∧
    (∀ m, s.maxSequence? = some m ↔ (∃ h row, s.block? h = some row ∧ row.sequence = some m) ∧
      ∀ h row n, s.block? h = some row → row.sequence = some n → n ≤ m) ∧
    (s.maxSequence? = none ↔ ∀ h row, s.block? h = some row → row.sequence = none) := by
  intro s
  have c : s.tables.Consistent := consistent_run Tables.consistent_empty ops
  exact ⟨c, fun _ => maxHeight?_eq_some_iff c, maxHeight?_eq_none_iff c,
    fun _ => maxSequence?_eq_some_iff c, maxSequence?_eq_none_iff c⟩

end Store

end BlockIndexer
