import BlockIndexer.Proofs.Store.WriteOnce
import Mathlib.Data.List.Induction

/-! Failures that are planted at transactions. An insert that fails leaves the tables alone, and one
that fails at a transaction uses up the failure planted there, the first one of its block. A block
fails as often as there are failures planted at its transactions. What is inserted in between and
what comes of the block in the end are what they would be if no failure had been planted. -/

namespace BlockIndexer

namespace Store

/-- The store without its planted failures. -/
def clean (s : Store) : Store := { s with failures := [] }

/-- The positions, among so many of a block, at which failures are planted. -/
def plantedPositions (s : Store) (height count : Nat) : List Nat :=
  (List.range count).filter fun position => s.failures.contains (height, position)

/-- No failure is planted at any transaction of a block. -/
def Unplanted (s : Store) (b : Block) : Prop := ∀ position, (b.height.toNat, position) ∉ s.failures

variable {s : Store} {b x : Block} {rows : BlockRows} {height count position : Nat}

theorem mem_plantedPositions :
    position ∈ s.plantedPositions height count ↔
      position < count ∧ (height, position) ∈ s.failures := by
  simp [plantedPositions]

theorem plantedFailure?_eq_head? :
    s.plantedFailure? height count = (s.plantedPositions height count).head? := by
  rw [plantedPositions, List.head?_filter, plantedFailure?]

theorem Unplanted.plantedFailure? (unplanted : s.Unplanted b) (count : Nat) :
    s.plantedFailure? b.height.toNat count = none := by
  rw [plantedFailure?_eq_head?, List.head?_eq_none_iff, List.eq_nil_iff_forall_not_mem]
  intro position planted
  exact unplanted position (mem_plantedPositions.mp planted).2

/-- The first planted failure is the one that fires, and the others stay. -/
theorem plantedPositions_of_first {first : Nat} {others : List Nat}
    (planted : s.plantedPositions height count = first :: others) :
    let used := { s with failures := s.failures.filter (· ≠ (height, first)) }
    used.plantedPositions height count = others := by
  intro used
  have distinct : (first :: others).Nodup := planted ▸ List.nodup_range.filter _
  have left : used.plantedPositions height count =
      (s.plantedPositions height count).filter (· ≠ first) := by
    rw [plantedPositions, plantedPositions, List.filter_filter]
    refine List.filter_congr fun position _ => ?_
    simp [used, List.mem_filter, and_comm]
  rw [left, planted, List.filter_cons_of_neg (by simp), List.filter_eq_self]
  intro position member
  have ne : position ≠ first := by
    rintro rfl
    exact (List.nodup_cons.mp distinct).1 member
  simpa using ne

/-! ### Inserts with and without planted failures -/

/-- Where no failure fires, an insert does what it does in the store without failures. -/
theorem insert_eq_clean (quiet : ∀ rows, x.toRows s.policy = .ok rows →
      s.plantedFailure? rows.height rows.transactions.length = none) :
    (s.insert x).1 = (s.clean.insert x).1 ∧ (s.insert x).2.clean = (s.clean.insert x).2 ∧
      (s.insert x).2.failures = s.failures := by
  rcases s.insert_cases x with ⟨e, h⟩ | ⟨rows, h, hs⟩ | ⟨rows, position, h, hs, hp⟩ |
    ⟨rows, h, hs, hp⟩
  · rw [insert_unmapped h, insert_unmapped (s := s.clean) h]
    exact ⟨rfl, rfl, rfl⟩
  · rw [insert_repeated h hs, insert_repeated (s := s.clean) h hs]
    exact ⟨rfl, rfl, rfl⟩
  · rw [quiet rows h] at hp
    contradiction
  · rw [insert_written h hs hp,
      insert_written (s := s.clean) h hs (plantedFailure?_eq_none rfl _ _)]
    exact ⟨rfl, rfl, rfl⟩

theorem insert_of_unplanted (unplanted : s.Unplanted x) :
    (s.insert x).1 = (s.clean.insert x).1 ∧ (s.insert x).2.clean = (s.clean.insert x).2 ∧
      (s.insert x).2.failures = s.failures := by
  refine insert_eq_clean fun rows mapped => ?_
  rw [Block.height_of_toRows mapped]
  exact unplanted.plantedFailure? _

theorem contains_insert_of_ne (other : x.height.toNat ≠ height) :
    (s.insert x).2.contains height = s.contains height := by
  rcases s.tables_insert x with same | ⟨rows, mapped, absent, written⟩
  · simp only [contains, same]
  · have ne : height ≠ rows.height := by
      rw [Block.height_of_toRows mapped]
      exact other.symm
    simp only [written, contains, Tables.contains, Tables.block?_addRows absent, if_neg ne]

/-- What is said of a block that has been tried in vain so far. -/
structure Pending (s : Store) (b : Block) (rows : BlockRows) : Prop where
  mapped : b.toRows s.policy = .ok rows
  absent : s.contains rows.height = false

/-- The positions at which the block is still to fail. -/
def failuresLeft (s : Store) (rows : BlockRows) : List Nat :=
  s.plantedPositions rows.height rows.transactions.length

theorem Pending.fail (pending : s.Pending b rows) {first : Nat} {others : List Nat}
    (planted : s.failuresLeft rows = first :: others) :
    s.insert b = (.error (injectedFailure rows.height first),
      { s with failures := s.failures.filter (· ≠ (rows.height, first)) }) := by
  refine insert_failed pending.mapped pending.absent ?_
  rw [plantedFailure?_eq_head?, ← failuresLeft, planted, List.head?_cons]

theorem failuresLeft_eq (mapped : b.toRows s.policy = .ok rows) :
    s.failuresLeft rows = s.plantedPositions b.height.toNat b.transactions.length := by
  rw [failuresLeft, Block.height_of_toRows mapped, Block.length_of_toRows mapped]

theorem Pending.quiet (pending : s.Pending b rows) (none : s.failuresLeft rows = []) :
    ∀ rows, b.toRows s.policy = .ok rows →
      s.plantedFailure? rows.height rows.transactions.length = .none := by
  intro other mapped
  cases pending.mapped.symm.trans mapped
  rw [plantedFailure?_eq_head?, ← failuresLeft, none, List.head?_nil]

/-- A pending block is written once no failure is left. -/
theorem Pending.write (pending : s.Pending b rows) (c : s.tables.Consistent)
    (none : s.failuresLeft rows = []) :
    s.insert b = (.ok rows.outcome, { s with tables := (s.tables.addRows rows).1 }) :=
  insert_written_eq c pending.mapped pending.absent (pending.quiet none rows pending.mapped)

theorem Pending.fails_iff (pending : s.Pending b rows) (c : s.tables.Consistent) :
    (∃ e, (s.insert b).1 = .error e) ↔
      ∃ p < b.transactions.length, (b.height.toNat, p) ∈ s.failures := by
  have left (p : Nat) : p ∈ s.failuresLeft rows ↔
      p < b.transactions.length ∧ (b.height.toNat, p) ∈ s.failures := by
    rw [failuresLeft_eq pending.mapped, mem_plantedPositions]
  simp only [← left]
  cases planted : s.failuresLeft rows with
  | nil =>
    rw [pending.write c planted]
    simp
  | cons first others =>
    rw [pending.fail planted]
    exact ⟨fun _ => ⟨first, List.mem_cons_self⟩, fun _ => ⟨_, rfl⟩⟩

/-- The failure that fires is the one at the least position. -/
theorem plantedPositions_of_least {p : Nat} (inside : p < count) (here : (height, p) ∈ s.failures)
    (least : ∀ q < p, (height, q) ∉ s.failures) :
    ∃ others, s.plantedPositions height count = p :: others := by
  have found : s.plantedFailure? height count = some p := by
    rw [plantedFailure?, List.find?_range_eq_some]
    refine ⟨List.contains_iff_mem.mpr here, List.mem_range.mpr inside, fun q below => ?_⟩
    simpa using least q below
  rw [plantedFailure?_eq_head?, List.head?_eq_some_iff] at found
  exact found

theorem insert_snd_of_refused (refused : (∃ e, b.toRows s.policy = .error e) ∨
      s.contains b.height.toNat = true) : (s.insert b).2 = s := by
  rcases refused with ⟨e, unmapped⟩ | stored
  · rw [insert_unmapped unmapped]
  · rw [insert_of_contains stored]

/-- The blocks that are inserted while a block is pending: attempts at it, and blocks of other
heights without planted failures. -/
def Interleaved (s : Store) (b : Block) (bs : List Block) : Prop :=
  ∀ x ∈ bs, x = b ∨ x.height ≠ b.height ∧ s.Unplanted x

theorem Interleaved.congr {s' : Store} {bs : List Block} (between : s.Interleaved b bs)
    (fewer : s'.failures ⊆ s.failures) : s'.Interleaved b bs := by
  intro x hx
  refine (between x hx).imp id (And.imp id ?_)
  intro unplanted position planted
  exact unplanted position (fewer planted)

/-- An attempt that is to fail leaves the block pending with one failure less, and a block of
another height is inserted as if there were no failures. -/
theorem Pending.insert (pending : s.Pending b rows) (between : x = b ∨
      x.height ≠ b.height ∧ s.Unplanted x) (few : [x].count b ≤ (s.failuresLeft rows).length) :
    (s.insert x).2.Pending b rows ∧ (s.insert x).2.failures ⊆ s.failures ∧
      (s.insert x).2.failuresLeft rows = (s.failuresLeft rows).drop ([x].count b) ∧
      if x = b then (∃ e, (s.insert x).1 = .error e) ∧ (s.insert x).2.clean = s.clean
      else (s.insert x).1 = (s.clean.insert x).1 ∧
        (s.insert x).2.clean = (s.clean.insert x).2 := by
  by_cases attempt : x = b
  · subst attempt
    rw [List.count_singleton_self] at few ⊢
    cases planted : s.failuresLeft rows with
    | nil => simp [planted] at few
    | cons first others =>
      rw [pending.fail planted, if_pos rfl]
      refine ⟨⟨pending.mapped, pending.absent⟩, List.filter_subset_self _, ?_, ⟨_, rfl⟩, rfl⟩
      exact plantedPositions_of_first planted
  · obtain ⟨other, unplanted⟩ := between.resolve_left attempt
    obtain ⟨answer, left, failures⟩ := insert_of_unplanted unplanted
    have ne : x.height.toNat ≠ rows.height := by
      rw [Block.height_of_toRows pending.mapped]
      exact fun eq => other (UInt64.toNat_inj.mp eq)
    have none : [x].count b = 0 := by simp [attempt]
    rw [if_neg attempt, none, List.drop_zero]
    refine ⟨⟨?_, ?_⟩, ?_, ?_, answer, left⟩
    · rw [policy_insert]
      exact pending.mapped
    · rw [contains_insert_of_ne ne]
      exact pending.absent
    · rw [failures]
      exact List.Subset.refl _
    · simp only [failuresLeft, plantedPositions, failures]

/-- While there are failures left, every attempt fails, and everything else is as it would be
without failures and without these attempts. -/
theorem Pending.run (pending : s.Pending b rows) {bs : List Block} (between : s.Interleaved b bs)
    (few : bs.count b ≤ (s.failuresLeft rows).length) :
    let others := (bs.filter (· ≠ b)).map Operation.insert
    let after := s.run (bs.map .insert)
    after.Pending b rows ∧ after.failuresLeft rows = (s.failuresLeft rows).drop (bs.count b) ∧
      after.clean = s.clean.run others ∧
      (∀ a ∈ s.answers (bs.map .insert), a.1 = b → ∃ e, a.2 = .error e) ∧
      (s.answers (bs.map .insert)).filter (·.1 ≠ b) = s.clean.answers others := by
  induction bs generalizing s with
  | nil =>
    refine ⟨pending, rfl, rfl, ?_, rfl⟩
    intro a member
    exact absurd member List.not_mem_nil
  | cons x bs ih =>
    have split : (x :: bs).count b = [x].count b + bs.count b := by
      rw [← List.count_append, List.singleton_append]
    rw [split] at few
    obtain ⟨pending', fewer, positions, step⟩ :=
      pending.insert (between x List.mem_cons_self) (by omega)
    have between' : (s.insert x).2.Interleaved b bs :=
      Interleaved.congr (fun y hy => between y (List.mem_cons_of_mem _ hy)) fewer
    have few' : bs.count b ≤ ((s.insert x).2.failuresLeft rows).length := by
      rw [positions, List.length_drop]
      omega
    obtain ⟨still, left, same, fail, answers⟩ := ih pending' between' few'
    rw [positions, List.drop_drop, ← split] at left
    by_cases attempt : x = b
    · rw [if_pos attempt] at step
      obtain ⟨error, unchanged⟩ := step
      rw [unchanged] at same answers
      have filtered : (x :: bs).filter (· ≠ b) = bs.filter (· ≠ b) :=
        List.filter_cons_of_neg (by simp [attempt])
      rw [filtered]
      refine ⟨still, left, same, ?_, ?_⟩
      · intro a member
        rcases List.mem_cons.mp member with rfl | member
        · exact fun _ => error
        · exact fail a member
      · rw [List.map_cons, Store.answers, List.filter_cons_of_neg (by simp [attempt])]
        exact answers
    · rw [if_neg attempt] at step
      obtain ⟨answer, unchanged⟩ := step
      rw [unchanged] at same answers
      have filtered : (x :: bs).filter (· ≠ b) = x :: bs.filter (· ≠ b) :=
        List.filter_cons_of_pos (by simp [attempt])
      rw [filtered]
      refine ⟨still, left, same, ?_, ?_⟩
      · intro a member
        rcases List.mem_cons.mp member with rfl | member
        · exact fun eq => absurd eq attempt
        · exact fail a member
      · rw [List.map_cons, Store.answers, List.filter_cons_of_pos (by simp [attempt]),
          List.map_cons, Store.answers, answer, answers]

/-- What a history leaves in the tables could have come from inserts alone, without any failure. -/
theorem exists_inserts (policy : NumericPolicy) (ops : List Operation) :
    ∃ bs : List Block, (empty policy).run (bs.map .insert) = ((empty policy).run ops).clean := by
  induction ops using List.reverseRecOn with
  | nil => exact ⟨[], rfl⟩
  | append_singleton ops op ih =>
    obtain ⟨bs, same⟩ := ih
    rw [run_append]
    cases op with
    | plantFailure height position => exact ⟨bs, same⟩
    | read => exact ⟨bs, same⟩
    | insert b =>
      show ∃ bs : List Block, _ = (((empty policy).run ops).insert b).2.clean
      generalize (empty policy).run ops = s at same
      rcases s.tables_insert b with unchanged | ⟨rows, mapped, absent, written⟩
      · refine ⟨bs, ?_⟩
        rw [same, clean, clean, unchanged, policy_insert]
      · have again : s.clean.insert b = (.ok (s.tables.addRows rows).2,
            { s.clean with tables := (s.tables.addRows rows).1 }) :=
          insert_written mapped absent (plantedFailure?_eq_none rfl _ _)
        refine ⟨bs ++ [b], ?_⟩
        rw [List.map_append, run_append, same, written]
        exact congrArg Prod.snd again

/-- An insert that fails leaves the tables alone. An insert of a block that maps, and whose height
is not stored, fails exactly if a failure is planted at one of its transactions, and uses up the
first of these and nothing else; any other insert uses up none. The block fails as often as there
are failures planted at its transactions, whatever blocks of other heights are inserted in between.
These are written, and the block itself in the end, as they would be in a store in which no failure
was ever planted and the block was not tried before. -/
theorem failed_inserts_recover (policy : NumericPolicy) (ops : List Operation) (b : Block) :
    let s := (empty policy).run ops
    let height := b.height.toNat
    let planted := s.plantedPositions height b.transactions.length
    (∀ e, (s.insert b).1 = .error e → (s.insert b).2.tables = s.tables) ∧
    (∀ rows, b.toRows policy = .ok rows → s.contains height = false →
      ((∃ e, (s.insert b).1 = .error e) ↔
        ∃ p < b.transactions.length, (height, p) ∈ s.failures) ∧
      ∀ p < b.transactions.length, (height, p) ∈ s.failures →
        (∀ q < p, (height, q) ∉ s.failures) →
        s.insert b = (.error (injectedFailure height p),
          { s with failures := s.failures.filter (· ≠ (height, p)) })) ∧
    ((∃ e, b.toRows policy = .error e) ∨ s.contains height = true → (s.insert b).2 = s) ∧
    (∃ bs : List Block, (empty policy).run (bs.map .insert) = s.clean) ∧
    ∀ rows, b.toRows policy = .ok rows → s.contains height = false →
      ∀ bs : List Block, s.Interleaved b bs → bs.count b ≤ planted.length →
        let others := (bs.filter (· ≠ b)).map Operation.insert
        let after := s.run (bs.map .insert)
        let spared := s.clean.run others
        (∀ a ∈ s.answers (bs.map .insert), a.1 = b → ∃ e, a.2 = .error e) ∧
        (s.answers (bs.map .insert)).filter (·.1 ≠ b) = s.clean.answers others ∧
        after.tables = spared.tables ∧
        (bs.count b = planted.length → wasInserted (after.insert b).1 = true ∧
          (after.insert b).1 = (spared.insert b).1 ∧
          (after.insert b).2.tables = (spared.insert b).2.tables) := by
  intro s height planted
  have c : s.tables.Consistent := consistent_run Tables.consistent_empty ops
  have hpolicy : s.policy = policy := policy_run (empty policy) ops
  rw [← hpolicy]
  have pending {rows : BlockRows} (mapped : b.toRows s.policy = .ok rows)
      (absent : s.contains height = false) : s.Pending b rows :=
    ⟨mapped, by rw [Block.height_of_toRows mapped]; exact absent⟩
  refine ⟨fun e failed => ?_, fun rows mapped absent => ⟨(pending mapped absent).fails_iff c, ?_⟩,
    insert_snd_of_refused, hpolicy ▸ exists_inserts policy ops, ?_⟩
  · rcases s.tables_insert b with same | ⟨rows, -, -, written⟩
    · exact same
    · rw [written] at failed
      contradiction
  · intro p inside here least
    obtain ⟨others, first⟩ := plantedPositions_of_least inside here least
    rw [← failuresLeft_eq mapped] at first
    have failed := (pending mapped absent).fail first
    rwa [Block.height_of_toRows mapped] at failed
  · intro rows mapped absent bs between few others after spared
    have left : s.failuresLeft rows = planted := failuresLeft_eq mapped
    rw [← left] at few
    obtain ⟨still, positions, same, fail, answers⟩ := (pending mapped absent).run between few
    have tables : after.clean.tables = spared.tables := congrArg Store.tables same
    refine ⟨fail, answers, tables, fun all => ?_⟩
    -- All failures have fired, so the next attempt is an insert that none of them disturbs.
    have none : after.failuresLeft rows = [] := by
      rw [positions, all, left, List.drop_length]
    obtain ⟨answer, written, -⟩ := insert_eq_clean (still.quiet none)
    rw [same] at answer written
    have succeeds : (after.insert b).1 = .ok rows.outcome := by
      rw [still.write (consistent_run c _) none]
    have tables' : (after.insert b).2.clean.tables = (spared.insert b).2.tables :=
      congrArg Store.tables written
    exact ⟨by rw [succeeds]; rfl, answer, tables'⟩

/-- Two failures are planted at a block of two transactions with one hash, and between the attempts
another block of the kind is inserted. -/
theorem doubled_recovers :
    let s := (empty .lenient).run [.plantFailure 5 1, .plantFailure 5 0]
    let other : Block := { doubled with height := 6 }
    let after := s.run [.insert doubled, .insert other, .insert doubled]
    let spared := s.clean.run [.insert other]
    s.insert doubled = (.error (injectedFailure 5 0), { s with failures := [(5, 1)] }) ∧
    after.tables = spared.tables ∧ wasInserted (after.insert doubled).1 = true ∧
    (after.insert doubled).2.tables = (spared.insert doubled).2.tables := by
  intro s other after spared
  have failures : s.failures = [(5, 0), (5, 1)] := by decide
  have absent : s.contains 5 = false := by decide
  have maps : (doubled.toRows .lenient).toOption.isSome = true := by decide +kernel
  cases mapped : doubled.toRows .lenient with
  | error e =>
    rw [mapped] at maps
    contradiction
  | ok rows =>
    obtain ⟨-, fails, -, -, recovers⟩ :=
      failed_inserts_recover .lenient [.plantFailure 5 1, .plantFailure 5 0] doubled
    have first : s.insert doubled = (.error (injectedFailure 5 0),
        { s with failures := s.failures.filter (· ≠ (5, 0)) }) :=
      (fails rows mapped absent).2 0 (by decide) (by decide) (by simp)
    have used : s.failures.filter (· ≠ (5, 0)) = [(5, 1)] := by decide
    rw [used] at first
    have between : s.Interleaved doubled [doubled, other, doubled] := by
      intro x hx
      simp only [List.mem_cons, List.not_mem_nil, or_false] at hx
      rcases hx with rfl | rfl | rfl
      · exact .inl rfl
      · refine .inr ⟨by decide, fun position => ?_⟩
        rw [failures]
        simp [other]
      · exact .inl rfl
    have filtered : [doubled, other, doubled].filter (· ≠ doubled) = [other] := by decide +kernel
    have twice : [doubled, other, doubled].count doubled = 2 := by decide +kernel
    have two : (s.plantedPositions 5 2).length = 2 := by decide
    have all : [doubled, other, doubled].count doubled = (s.plantedPositions 5 2).length :=
      twice.trans two.symm
    obtain ⟨-, -, tables, last⟩ := recovers rows mapped absent _ between (Nat.le_of_eq all)
    simp only [filtered, List.map_cons, List.map_nil] at tables last
    obtain ⟨written, -, same⟩ := last all
    refine ⟨first, tables, written, ?_⟩
    simpa only [after, spared, s] using same

end Store

end BlockIndexer
