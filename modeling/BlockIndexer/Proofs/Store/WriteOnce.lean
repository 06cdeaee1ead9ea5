import BlockIndexer.Proofs.Store.History

/-! The store as a map from heights to rows that is written once per height. What the tables show
at a height is the block row with its transactions and their events, without the ids that link
them. The first insert that writes a height fixes what it shows for good, later rows come after
earlier ones, and the order in which blocks of different heights are inserted shows nowhere. -/

namespace BlockIndexer

namespace Tables

/-- The transactions of the block at a height with their events, in the order of their writing. -/
def transactionsAt (t : Tables) (height : Nat) : List TransactionRows :=
  (t.transactions.filter (·.row.block == height)).map fun tx => ⟨tx.row, t.logsOf tx.id⟩

/-- What the tables show at a height. -/
def rowsAt? (t : Tables) (height : Nat) : Option BlockRows :=
  (t.block? height).map fun row => ⟨row, t.transactionsAt height⟩

variable {t after : Tables} {txs : List TransactionRows} {rows : BlockRows}

theorem isSome_rowsAt? (t : Tables) (height : Nat) :
    (t.rowsAt? height).isSome = t.contains height := by
  rw [rowsAt?, Option.isSome_map, contains]

theorem Consistent.transactionsAt_write (c : t.Consistent) (tx : TransactionRows) (height : Nat) :
    (t.write tx).transactionsAt height =
      t.transactionsAt height ++ if tx.row.block = height then [tx] else [] := by
  have old : ∀ x ∈ t.transactions.filter (·.row.block == height),
      (⟨x.row, (t.write tx).logsOf x.id⟩ : TransactionRows) = ⟨x.row, t.logsOf x.id⟩ := by
    intro x hx
    have hle := c.id_le (List.mem_filter.mp hx).1
    rw [c.logsOf_write, if_neg (by omega)]
  have new : (t.write tx).logsOf (t.transactions.length + 1) = tx.logs := by
    rw [c.logsOf_write, if_pos rfl]
  rw [transactionsAt, show (t.write tx).transactions = t.transactions ++
    [⟨t.transactions.length + 1, tx.row⟩] from rfl, List.filter_append, List.map_append,
    List.map_congr_left old, transactionsAt]
  congr 1
  by_cases hb : tx.row.block = height <;> simp [hb, new]

/-- Rows that are written one after the other come after those that were there. -/
theorem Writes.extends (w : Writes t txs after) :
    t.transactions <+: after.transactions ∧ t.events <+: after.events := by
  induction w with
  | nil => exact ⟨List.prefix_rfl, List.prefix_rfl⟩
  | cons _ _ _ ih =>
    exact ⟨(List.prefix_append ..).trans ih.1, (List.prefix_append ..).trans ih.2⟩

theorem Writes.transactionsAt_eq (w : Writes t txs after) (height : Nat) :
    after.transactionsAt height =
      t.transactionsAt height ++ txs.filter (·.row.block == height) := by
  induction w with
  | nil => simp
  | @cons t after tx txs consistent new rest ih =>
    rw [ih, consistent.transactionsAt_write]
    by_cases hb : tx.row.block = height <;> simp [hb]

theorem Consistent.transactionsAt_eq_nil (c : t.Consistent) {height : Nat}
    (absent : t.contains height = false) : t.transactionsAt height = [] := by
  rw [transactionsAt, List.map_eq_nil_iff, List.filter_eq_nil_iff]
  intro tx htx hb
  have stored := c.block_stored tx htx
  rw [beq_iff_eq.mp hb, absent] at stored
  contradiction

theorem transactionsAt_addRows (c : t.Consistent) (wf : rows.WellFormed)
    (absent : t.contains rows.height = false) (height : Nat) :
    (t.addRows rows).1.transactionsAt height =
      if height = rows.height then rows.distinct.transactions else t.transactionsAt height := by
  have view := (writes_addRows c wf absent).transactionsAt_eq height
  rw [view, show (t.addBlock rows.height rows.block).transactionsAt height =
    t.transactionsAt height from rfl]
  split
  next heq =>
    subst heq
    rw [c.transactionsAt_eq_nil absent, List.nil_append, List.filter_eq_self]
    exact fun tx htx => beq_iff_eq.mpr (wf.distinct.block_eq tx htx)
  next hne =>
    rw [List.filter_eq_nil_iff.mpr fun tx htx hb => ?_, List.append_nil]
    exact hne (beq_iff_eq.mp hb ▸ wf.distinct.block_eq tx htx)

/-- Adding the rows of a block that is not stored shows at its height, and nowhere else. -/
theorem rowsAt?_addRows (c : t.Consistent) (wf : rows.WellFormed)
    (absent : t.contains rows.height = false) (height : Nat) :
    (t.addRows rows).1.rowsAt? height =
      if height = rows.height then some rows.distinct else t.rowsAt? height := by
  rw [rowsAt?, block?_addRows absent, transactionsAt_addRows c wf absent]
  split
  · rfl
  · rfl

end Tables

/-- What a block shows at a height once it is written. -/
def Block.rowsFor? (policy : NumericPolicy) (height : Nat) (b : Block) : Option BlockRows :=
  if b.height.toNat = height then (b.toRows policy).toOption.map BlockRows.distinct else none

/-- Whether the answer to an insert says that the block was written. -/
def wasInserted : Except Error Outcome → Bool
  | .ok outcome => outcome.blockInserted
  | .error _ => false

namespace Store

/-- What the store shows at a height: the block row, and the transactions with their events. -/
def rowsAt? (s : Store) (height : Nat) : Option BlockRows :=
  (s.block? height).map fun row => ⟨row, (s.transactionsOf height).map fun tx =>
    ⟨tx.row, (s.events.filter (·.transaction == tx.id)).map (·.row)⟩⟩

/-- The answers to the inserts of a history, each with its block. -/
def answers (s : Store) : List Operation → List (Block × Except Error Outcome)
  | [] => []
  | .insert b :: ops => (b, (s.insert b).1) :: (s.insert b).2.answers ops
  | op :: ops => (s.apply op).answers ops

variable {s : Store} {b : Block} {rows : BlockRows}

theorem isSome_rowsAt? (s : Store) (height : Nat) :
    (s.rowsAt? height).isSome = s.contains height :=
  s.tables.isSome_rowsAt? height

theorem rowsAt?_eq_none {height : Nat} (absent : s.contains height = false) :
    s.rowsAt? height = none := by
  rw [← Option.not_isSome_iff_eq_none, isSome_rowsAt?, absent]
  exact Bool.false_ne_true

theorem insert_written_eq (c : s.tables.Consistent) (h : b.toRows s.policy = .ok rows)
    (absent : s.contains rows.height = false)
    (unplanted : s.plantedFailure? rows.height rows.transactions.length = none) :
    s.insert b = (.ok rows.outcome, { s with tables := (s.tables.addRows rows).1 }) := by
  rw [insert_written h absent unplanted,
    Tables.addRows_eq c (Block.wellFormed_of_toRows h) absent]

/-- An insert at a stored height changes nothing. It succeeds if the block maps. -/
theorem insert_of_contains (stored : s.contains b.height.toNat = true) :
    s.insert b =
      ((b.toRows s.policy).map fun _ => .alreadyIndexed b.height.toNat, s) := by
  cases h : b.toRows s.policy with
  | error e => rw [insert_unmapped h]; rfl
  | ok rows =>
    rw [← Block.height_of_toRows h] at stored ⊢
    rw [insert_repeated h stored]
    rfl

/-- Only an insert whose answer says so changes what the store shows, and only where nothing is
shown. -/
theorem rowsAt?_insert (c : s.tables.Consistent) (b : Block) (height : Nat) :
    (s.insert b).2.rowsAt? height =
      if wasInserted (s.insert b).1 then (s.rowsAt? height).or (b.rowsFor? s.policy height)
      else s.rowsAt? height := by
  rcases s.insert_cases b with ⟨e, h⟩ | ⟨rows, h, hs⟩ | ⟨rows, position, h, hs, hp⟩ |
    ⟨rows, h, hs, hp⟩
  · rw [insert_unmapped h]
    rfl
  · rw [insert_repeated h hs]
    rfl
  · rw [insert_failed h hs hp]
    rfl
  · have wf := Block.wellFormed_of_toRows h
    have view := Tables.rowsAt?_addRows c wf hs height
    rw [insert_written_eq c h hs hp, if_pos (show wasInserted (.ok rows.outcome) = true from rfl)]
    refine view.trans ?_
    rw [Block.rowsFor?, ← Block.height_of_toRows h, h]
    by_cases heq : height = rows.height
    · rw [heq, if_pos rfl, if_pos rfl, rowsAt?_eq_none hs]
      rfl
    · rw [if_neg heq, if_neg fun h' => heq h'.symm, Option.or_none]
      rfl

theorem rowsAt?_apply_of_some (c : s.tables.Consistent) (op : Operation) {height : Nat}
    {shown : BlockRows} (h : s.rowsAt? height = some shown) :
    (s.apply op).rowsAt? height = some shown := by
  cases op with
  | insert b =>
    refine (rowsAt?_insert c b height).trans ?_
    rw [h]
    split <;> rfl
  | plantFailure height position => exact h
  | read => exact h

/-- What the store shows at a height stays. -/
theorem rowsAt?_run_of_some (c : s.tables.Consistent) (ops : List Operation) {height : Nat}
    {shown : BlockRows} (h : s.rowsAt? height = some shown) :
    (s.run ops).rowsAt? height = some shown := by
  induction ops generalizing s with
  | nil => exact h
  | cons op ops ih => exact ih (consistent_apply c op) (rowsAt?_apply_of_some c op h)

theorem contains_run (c : s.tables.Consistent) (ops : List Operation) {height : Nat}
    (h : s.contains height = true) : (s.run ops).contains height = true := by
  rw [← isSome_rowsAt?] at h ⊢
  obtain ⟨shown, hshown⟩ := Option.isSome_iff_exists.mp h
  rw [rowsAt?_run_of_some c ops hshown]
  rfl

theorem rowsAt?_of_wasInserted (c : s.tables.Consistent) (h : wasInserted (s.insert b).1 = true) :
    ∃ rows, b.toRows s.policy = .ok rows ∧ s.contains b.height.toNat = false ∧
      (s.insert b).2.rowsAt? b.height.toNat = some rows.distinct := by
  have view := rowsAt?_insert c b b.height.toNat
  rw [if_pos h] at view
  rcases s.insert_cases b with ⟨e, hr⟩ | ⟨rows, hr, hs⟩ | ⟨rows, position, hr, hs, hp⟩ |
    ⟨rows, hr, hs, hp⟩
  · rw [insert_unmapped hr] at h
    contradiction
  · rw [insert_repeated hr hs] at h
    contradiction
  · rw [insert_failed hr hs hp] at h
    contradiction
  · rw [Block.height_of_toRows hr] at hs
    rw [rowsAt?_eq_none hs, Option.none_or, Block.rowsFor?, if_pos rfl, hr] at view
    exact ⟨rows, hr, hs, view⟩

/-- Later rows come after earlier ones. -/
theorem insert_extends (c : s.tables.Consistent) (b : Block) :
    s.tables.transactions <+: (s.insert b).2.tables.transactions ∧
      s.events <+: (s.insert b).2.events := by
  rcases s.tables_insert b with h | ⟨rows, hrows, absent, h⟩
  · simp only [events, h]
    exact ⟨List.prefix_rfl, List.prefix_rfl⟩
  · rw [h]
    exact (Tables.writes_addRows c (Block.wellFormed_of_toRows hrows) absent).extends

theorem run_extends (c : s.tables.Consistent) (ops : List Operation) :
    s.tables.transactions <+: (s.run ops).tables.transactions ∧
      s.events <+: (s.run ops).events := by
  induction ops generalizing s with
  | nil => exact ⟨List.prefix_rfl, List.prefix_rfl⟩
  | cons op ops ih =>
    have later := ih (consistent_apply c op)
    have step : s.tables.transactions <+: (s.apply op).tables.transactions ∧
        s.events <+: (s.apply op).events := by
      cases op with
      | insert b => exact insert_extends c b
      | plantFailure height position => exact ⟨List.prefix_rfl, List.prefix_rfl⟩
      | read => exact ⟨List.prefix_rfl, List.prefix_rfl⟩
    exact ⟨step.1.trans later.1, step.2.trans later.2⟩

/-- Whether an answer is that a block at a height was written. -/
def wroteAt (height : Nat) (answer : Block × Except Error Outcome) : Bool :=
  answer.1.height.toNat == height && wasInserted answer.2

theorem countP_wroteAt_of_contains (c : s.tables.Consistent) (ops : List Operation) {height : Nat}
    (stored : s.contains height = true) : (s.answers ops).countP (wroteAt height) = 0 := by
  induction ops generalizing s with
  | nil => rfl
  | cons op ops ih =>
    cases op with
    | insert b =>
      rw [answers, List.countP_cons_of_neg, ih (consistent_insert c b)
        (contains_run c [.insert b] stored)]
      simp only [wroteAt, Bool.and_eq_true, beq_iff_eq, not_and]
      rintro rfl h
      obtain ⟨-, -, absent, -⟩ := rowsAt?_of_wasInserted c h
      rw [stored] at absent
      contradiction
    | plantFailure height position => exact ih c stored
    | read => exact ih c stored

/-- A height is written at most once. -/
theorem countP_wroteAt_le_one (c : s.tables.Consistent) (ops : List Operation) (height : Nat) :
    (s.answers ops).countP (wroteAt height) ≤ 1 := by
  induction ops generalizing s with
  | nil => exact Nat.zero_le 1
  | cons op ops ih =>
    cases op with
    | insert b =>
      rw [answers]
      by_cases h : wroteAt height (b, (s.insert b).1) = true
      · rw [List.countP_cons_of_pos h]
        simp only [wroteAt, Bool.and_eq_true, beq_iff_eq] at h
        obtain ⟨rfl, h⟩ := h
        obtain ⟨rows, -, -, shown⟩ := rowsAt?_of_wasInserted c h
        have stored : (s.insert b).2.contains b.height.toNat = true := by
          rw [← isSome_rowsAt?, shown]
          rfl
        have rest := countP_wroteAt_of_contains (consistent_insert c b) ops stored
        omega
      · rw [List.countP_cons_of_neg h]
        exact ih (consistent_insert c b)
    | plantFailure height position => exact ih c
    | read => exact ih c

/-! ### Blocks inserted without planted failures -/

theorem failures_insert (clean : s.failures = []) (b : Block) :
    (s.insert b).2.failures = [] := by
  rcases insert_cases_of_clean clean b with ⟨e, h⟩ | ⟨rows, h, hs⟩ | ⟨rows, h, hs, hp⟩
  · rwa [insert_unmapped h]
  · rwa [insert_repeated h hs]
  · rwa [insert_written h hs hp]

/-- Without planted failures, an answer depends on the block and on whether its height is
stored. -/
theorem insert_fst (c : s.tables.Consistent) (clean : s.failures = []) (b : Block) :
    (s.insert b).1 = (b.toRows s.policy).map fun rows =>
      if s.contains b.height.toNat then .alreadyIndexed b.height.toNat else rows.outcome := by
  rcases insert_cases_of_clean clean b with ⟨e, h⟩ | ⟨rows, h, hs⟩ | ⟨rows, h, hs, hp⟩
  · rw [insert_unmapped h, h]
    rfl
  · rw [insert_repeated h hs, h, ← Block.height_of_toRows h, Except.map, if_pos hs]
  · rw [insert_written_eq c h hs hp, h, ← Block.height_of_toRows h, Except.map,
      if_neg (hs ▸ Bool.false_ne_true)]

theorem rowsAt?_insert_of_clean (c : s.tables.Consistent) (clean : s.failures = []) (b : Block)
    (height : Nat) :
    (s.insert b).2.rowsAt? height = (s.rowsAt? height).or (b.rowsFor? s.policy height) := by
  rcases insert_cases_of_clean clean b with ⟨e, h⟩ | ⟨rows, h, hs⟩ | ⟨rows, h, hs, hp⟩
  · have hnone : b.rowsFor? s.policy height = none := by
      rw [Block.rowsFor?, h]
      split <;> rfl
    rw [insert_unmapped h, hnone, Option.or_none]
  · rw [insert_repeated h hs, Block.rowsFor?, ← Block.height_of_toRows h]
    split
    next heq =>
      rw [← isSome_rowsAt?, heq] at hs
      obtain ⟨shown, hshown⟩ := Option.isSome_iff_exists.mp hs
      rw [hshown]
      rfl
    next => rw [Option.or_none]
  · rw [rowsAt?_insert c, insert_written_eq c h hs hp]
    exact if_pos rfl

/-- After a list of blocks, a height shows what it showed before, or else the first of the blocks
that maps at this height. -/
theorem rowsAt?_run_inserts (c : s.tables.Consistent) (clean : s.failures = []) (bs : List Block)
    (height : Nat) :
    (s.run (bs.map .insert)).rowsAt? height =
      (s.rowsAt? height).or (bs.findSome? (Block.rowsFor? s.policy height)) := by
  induction bs generalizing s with
  | nil => exact Option.or_none.symm
  | cons b bs ih =>
    refine (ih (consistent_insert c b) (failures_insert clean b)).trans ?_
    rw [rowsAt?_insert_of_clean c clean, policy_insert, List.findSome?_cons, Option.or_assoc]
    cases b.rowsFor? s.policy height <;> rfl

/-- Blocks of different heights are answered as if each of them were the first. -/
theorem answers_inserts (c : s.tables.Consistent) (clean : s.failures = []) {bs : List Block}
    (distinct : (bs.map (·.height)).Nodup) :
    s.answers (bs.map .insert) = bs.map fun b => (b, (s.insert b).1) := by
  induction bs generalizing s with
  | nil => rfl
  | cons b bs ih =>
    obtain ⟨hb, distinct⟩ := List.nodup_cons.mp distinct
    have c' := consistent_insert c b
    have clean' := failures_insert clean b
    rw [List.map_cons, answers, ih c' clean' distinct, List.map_cons]
    congr 1
    refine List.map_congr_left fun b' hb' => ?_
    have hne : b.height.toNat ≠ b'.height.toNat := fun heq =>
      hb (List.mem_map.mpr ⟨b', hb', (UInt64.toNat_inj.mp heq).symm⟩)
    have same : (s.insert b).2.contains b'.height.toNat = s.contains b'.height.toNat := by
      rw [← isSome_rowsAt?, rowsAt?_insert_of_clean c clean, Block.rowsFor?, if_neg hne,
        Option.or_none, isSome_rowsAt?]
    rw [insert_fst c' clean', insert_fst c clean, policy_insert, same]

/-- Among blocks of different heights, at most one can show at a height, wherever it stands. -/
theorem findSome?_rowsFor?_perm {bs bs' : List Block} (perm : bs.Perm bs')
    (distinct : (bs.map (·.height)).Nodup) (policy : NumericPolicy) (height : Nat) :
    bs.findSome? (Block.rowsFor? policy height) = bs'.findSome? (Block.rowsFor? policy height) := by
  induction perm with
  | nil => rfl
  | cons b _ ih =>
    rw [List.findSome?_cons, List.findSome?_cons, ih (List.nodup_cons.mp distinct).2]
  | swap b b' bs =>
    have hne : b.height.toNat ≠ b'.height.toNat := fun heq => by
      simp [UInt64.toNat_inj.mp heq] at distinct
    rw [List.findSome?_cons, List.findSome?_cons, List.findSome?_cons, List.findSome?_cons]
    by_cases h : b.height.toNat = height
    · have hnone : b'.rowsFor? policy height = none := if_neg fun h' => hne (h.trans h'.symm)
      rw [hnone]
    · have hnone : b.rowsFor? policy height = none := if_neg h
      rw [hnone]
  | trans perm _ ih ih' =>
    exact (ih distinct).trans (ih' ((perm.map _).nodup_iff.mp distinct))

/-- The store is a map from heights to rows that is written once. After any history of an empty
store, no height has been written twice; an insert that writes a block fixes what its height shows
for all that follows, which is the rows of exactly that block without the transactions that repeat
a hash in it, and every later insert at the height is answered by the mapping alone and changes
nothing; later transactions and events come after earlier ones; and, if no failure is planted,
blocks of different heights are answered alike and show alike in whichever order they come. -/
theorem write_once (policy : NumericPolicy) (ops : List Operation) :
    let s := (empty policy).run ops
    (∀ height, ((empty policy).answers ops).countP (wroteAt height) ≤ 1) ∧
    (∀ b after, wasInserted (s.insert b).1 = true →
      let later := (s.insert b).2.run after
      (∃ rows, b.toRows policy = .ok rows ∧
        later.rowsAt? b.height.toNat = some rows.distinct) ∧
      ∀ b' : Block, b'.height = b.height → later.insert b' =
        ((b'.toRows policy).map fun _ => .alreadyIndexed b.height.toNat, later)) ∧
    (∀ after, s.tables.transactions <+: (s.run after).tables.transactions ∧
      s.events <+: (s.run after).events) ∧
    (s.failures = [] → ∀ bs bs' : List Block, (bs.map (·.height)).Nodup → bs.Perm bs' →
      s.answers (bs.map .insert) = bs.map (fun b => (b, (s.insert b).1)) ∧
      s.answers (bs'.map .insert) = bs'.map (fun b => (b, (s.insert b).1)) ∧
      ∀ height,
        (s.run (bs.map .insert)).rowsAt? height = (s.run (bs'.map .insert)).rowsAt? height) := by
  intro s
  have c : s.tables.Consistent := consistent_run Tables.consistent_empty ops
  have hpolicy : s.policy = policy := policy_run (empty policy) ops
  refine ⟨countP_wroteAt_le_one Tables.consistent_empty ops, fun b after inserted => ?_,
    run_extends c, fun clean bs bs' distinct perm => ?_⟩
  · intro later
    obtain ⟨rows, hrows, -, shown⟩ := rowsAt?_of_wasInserted c inserted
    have shownLater : later.rowsAt? b.height.toNat = some rows.distinct :=
      rowsAt?_run_of_some (consistent_insert c b) after shown
    refine ⟨⟨rows, hpolicy ▸ hrows, shownLater⟩, fun b' heq => ?_⟩
    have stored : later.contains b'.height.toNat = true := by
      rw [heq, ← isSome_rowsAt?, shownLater]
      rfl
    have laterPolicy : later.policy = policy :=
      (policy_run _ after).trans ((policy_insert s b).trans hpolicy)
    rw [insert_of_contains stored, laterPolicy, heq]
  · have distinct' : (bs'.map (·.height)).Nodup := (perm.map _).nodup_iff.mp distinct
    refine ⟨answers_inserts c clean distinct, answers_inserts c clean distinct', fun height => ?_⟩
    rw [rowsAt?_run_inserts c clean, rowsAt?_run_inserts c clean,
      findSome?_rowsFor?_perm perm distinct]

/-- A block with two transactions of one hash. -/
def doubled : Block :=
  let tx : Transaction :=
    { hash := .zero, blockHash := .zero, blockHeight := 5, chainId := 1, index := 0,
      sender := .zero, recipient := none, nonce := .ofNat 0, gasPrice := .ofNat 0,
      gasLimit := .ofNat 0, gasUsed := 0, maxPriorityFeePerGas := .ofNat 0,
      maxFeePerGas := .ofNat 0, value := .ofNat 0, input := [], output := [], accessList := [],
      txType := 0, status := true, logs := [⟨.zero, [], []⟩], contractAddress := none, v := 0,
      r := .ofNat 0, s := .ofNat 0, near := none }
  { Block.empty 1 5 with transactions := [tx, { tx with index := 1 }] }

theorem doubled_written_once :
    let s := (empty .lenient).run [.plantFailure 5 1, .insert doubled]
    let later := (s.insert doubled).2.run [.plantFailure 5 0, .insert (.empty 1 5)]
    wasInserted ((empty .lenient).run [.plantFailure 5 1] |>.insert doubled).1 = false ∧
    wasInserted (s.insert doubled).1 = true ∧
    (∃ rows, doubled.toRows .lenient = .ok rows ∧ rows.distinct.transactions.length = 1 ∧
      later.rowsAt? 5 = some rows.distinct) ∧
    later.insert (.empty 1 5) =
      (((Block.empty 1 5).toRows .lenient).map fun _ => .alreadyIndexed 5, later) ∧
    ∀ height, (s.run [.insert (.empty 1 5), .insert (.empty 1 6)]).rowsAt? height =
      (s.run [.insert (.empty 1 6), .insert (.empty 1 5)]).rowsAt? height := by
  intro s later
  have inserted : wasInserted (s.insert doubled).1 = true := by decide +kernel
  obtain ⟨-, fixed, -, orders⟩ := write_once .lenient [.plantFailure 5 1, .insert doubled]
  obtain ⟨⟨rows, hrows, shown⟩, again⟩ := fixed doubled _ inserted
  have one : (doubled.toRows .lenient).toOption.all
      (·.distinct.transactions.length == 1) = true := by
    decide +kernel
  rw [hrows] at one
  refine ⟨by decide +kernel, inserted, ⟨rows, hrows, beq_iff_eq.mp one, shown⟩, again _ rfl, ?_⟩
  exact (orders (by decide +kernel) [.empty 1 5, .empty 1 6] [.empty 1 6, .empty 1 5]
    (by decide +kernel) (.swap _ _ _)).2.2

end Store

end BlockIndexer
