import BlockIndexer.Proofs.Store.Missing
import BlockIndexer.Proofs.Store.WriteOnce
import Mathlib.Data.Finset.Card
import Mathlib.Order.Interval.Finset.Nat

/-! What the query for missing heights answers, and what an insert does to its answers. An answer
holds the highest of the heights of its range that have no block row, as many as it may hold. A
block that is written takes its height out of the answers, and no other insert shows in them. -/

namespace BlockIndexer.Store

variable {s : Store} {b : Block} {min max limit h : Nat}

/-- All heights from `min` to `max` without a block row, the highest first. -/
def missing (s : Store) (min max : Nat) : List Nat :=
  ((List.range' min (max + 1 - min)).filter fun h => !s.contains h).reverse

theorem missingHeights_eq_take (s : Store) (min max limit : Nat) :
    s.missingHeights min max limit = (s.missing min max).take limit :=
  missingAbove_eq_take ..

theorem contains_eq_false_iff : s.contains h = false ↔ s.block? h = none :=
  Tables.contains_eq_false_iff

theorem mem_missing : h ∈ s.missing min max ↔ (min ≤ h ∧ h ≤ max) ∧ s.block? h = none := by
  rw [missing, List.mem_reverse, List.mem_filter, List.mem_range'_1, Bool.not_eq_true',
    contains_eq_false_iff]
  refine and_congr_left fun _ => and_congr_right fun low => ?_
  omega

theorem missing_falls (s : Store) (min max : Nat) : (s.missing min max).Pairwise (· > ·) :=
  List.pairwise_reverse.mpr ((List.pairwise_lt_range' 1).filter _)

theorem nodup_missing (s : Store) (min max : Nat) : (s.missing min max).Nodup :=
  (s.missing_falls min max).imp Nat.ne_of_gt

/-- The heights of a range that have no block row. -/
def absent (s : Store) (min max : Nat) : Finset Nat :=
  {h ∈ Finset.Icc min max | s.block? h = none}

theorem mem_absent : h ∈ s.absent min max ↔ (min ≤ h ∧ h ≤ max) ∧ s.block? h = none := by
  rw [absent, Finset.mem_filter, Finset.mem_Icc]

theorem length_missing (s : Store) (min max : Nat) :
    (s.missing min max).length = (s.absent min max).card := by
  have same : (s.missing min max).toFinset = s.absent min max := by
    ext h
    rw [List.mem_toFinset, mem_missing, mem_absent]
  rw [← same, List.toFinset_card_of_nodup (s.nodup_missing min max)]

/-- What stands above an element of the first ones of a falling list is one of the first ones. -/
theorem mem_take_of_falls {xs : List Nat} (falls : xs.Pairwise (· > ·)) {n lowest x : Nat}
    (first : lowest ∈ xs.take n) (mem : x ∈ xs) (above : lowest ≤ x) : x ∈ xs.take n := by
  rw [← List.take_append_drop n xs] at falls mem
  rcases List.mem_append.mp mem with early | late
  · exact early
  · have below := (List.pairwise_append.mp falls).2.2 lowest first x late
    omega

/-! ### Inserts -/

/-- A block that is written adds its height. -/
theorem contains_insert_of_inserted (c : s.tables.Consistent)
    (inserted : wasInserted (s.insert b).1 = true) (h : Nat) :
    (s.insert b).2.contains h = (s.contains h || h == b.height.toNat) := by
  obtain ⟨rows, mapped, -, -⟩ := rowsAt?_of_wasInserted c inserted
  rw [← isSome_rowsAt?, rowsAt?_insert c, if_pos inserted, Option.isSome_or, isSome_rowsAt?,
    Block.rowsFor?, mapped]
  congr 1
  by_cases here : b.height.toNat = h
  · rw [if_pos here, here, beq_self_eq_true]
    rfl
  · rw [if_neg here, beq_false_of_ne (Ne.symm here)]
    rfl

/-- Any other insert, which is one that fails or finds the height stored, adds none. -/
theorem contains_insert_of_not_inserted (c : s.tables.Consistent)
    (not : wasInserted (s.insert b).1 = false) (h : Nat) :
    (s.insert b).2.contains h = s.contains h := by
  rw [← isSome_rowsAt?, rowsAt?_insert c, not, if_neg Bool.false_ne_true, isSome_rowsAt?]

theorem missing_insert_of_inserted (c : s.tables.Consistent)
    (inserted : wasInserted (s.insert b).1 = true) (min max : Nat) :
    (s.insert b).2.missing min max = (s.missing min max).erase b.height.toNat := by
  rw [(s.nodup_missing min max).erase_eq_filter, missing, missing, List.filter_reverse,
    List.filter_filter]
  refine congrArg List.reverse (List.filter_congr fun h _ => ?_)
  rw [contains_insert_of_inserted c inserted, Bool.not_or, Bool.and_comm]
  rfl

theorem missing_insert_of_not_inserted (c : s.tables.Consistent)
    (not : wasInserted (s.insert b).1 = false) (min max : Nat) :
    (s.insert b).2.missing min max = s.missing min max := by
  refine congrArg List.reverse (List.filter_congr fun h _ => ?_)
  rw [contains_insert_of_not_inserted c not]

/-- The answer of the query for missing heights, after any history of a store: it falls, holds
nothing but heights of its range without a block row, as many of them as there are and it may hold,
and no height without a block row stands above its last one but is not in it. Once a block has been
written, its height has a block row; it is taken out of an answer that held all missing heights of
a range around it, and the answers for ranges beside it are what they were. An insert that fails,
or finds its height stored, changes no answer. -/
theorem missing_exact (policy : NumericPolicy) (ops : List Operation) :
    let s := (empty policy).run ops
    (∀ min max limit,
      let answer := s.missingHeights min max limit
      answer.Pairwise (· > ·) ∧ (∀ h ∈ answer, h ∈ s.absent min max) ∧
      answer.length = Nat.min limit (s.absent min max).card ∧
      ∀ lowest ∈ answer.getLast?, ∀ h ∈ s.absent min max, lowest ≤ h → h ∈ answer) ∧
    ∀ b : Block,
      let height := b.height.toNat
      let after := (s.insert b).2
      (∀ outcome, (s.insert b).1 = .ok outcome → outcome.blockInserted = true →
        s.block? height = none ∧ after.block? height ≠ none ∧
        ∀ min max limit,
          let answer := s.missingHeights min max limit
          (min ≤ height → height ≤ max → (s.absent min max).card ≤ limit →
            height ∈ answer ∧ after.missingHeights min max limit = answer.erase height) ∧
          (height < min ∨ max < height → after.missingHeights min max limit = answer)) ∧
      ((∀ outcome, (s.insert b).1 = .ok outcome → outcome.isAlreadyIndexed = true) →
        ∀ min max limit,
          after.missingHeights min max limit = s.missingHeights min max limit) := by
  intro s
  have c : s.tables.Consistent := consistent_run Tables.consistent_empty ops
  refine ⟨fun min max limit => ?_, fun b => ⟨fun outcome ok inserted => ?_, fun old => ?_⟩⟩
  · intro answer
    have taken : answer = (s.missing min max).take limit := missingHeights_eq_take ..
    have first (h : Nat) (mem : h ∈ answer) : h ∈ s.missing min max :=
      List.mem_of_mem_take (taken ▸ mem)
    refine ⟨?_, fun h mem => ?_, ?_, fun lowest last h mem above => ?_⟩
    · rw [taken]
      exact (s.missing_falls min max).sublist (List.take_sublist ..)
    · exact mem_absent.mpr (mem_missing.mp (first h mem))
    · rw [taken, List.length_take, length_missing]
    · have low : lowest ∈ answer := List.mem_of_getLast? last
      rw [taken] at low ⊢
      exact mem_take_of_falls (s.missing_falls min max) low
        (mem_missing.mpr (mem_absent.mp mem)) above
  · have written : wasInserted (s.insert b).1 = true := by rw [ok]; exact inserted
    obtain ⟨-, -, fresh, -⟩ := rowsAt?_of_wasInserted c written
    rw [contains_eq_false_iff] at fresh
    refine ⟨fresh, fun none => ?_, fun min max limit => ⟨fun low high all => ?_, fun outside => ?_⟩⟩
    · rw [← contains_eq_false_iff, contains_insert_of_inserted c written, beq_self_eq_true,
        Bool.or_true] at none
      contradiction
    · have few : (s.missing min max).length ≤ limit := (s.length_missing min max).trans_le all
      have fewer : ((s.missing min max).erase b.height.toNat).length ≤ limit :=
        Nat.le_trans List.length_erase_le few
      rw [missingHeights_eq_take, missingHeights_eq_take, missing_insert_of_inserted c written,
        List.take_of_length_le few, List.take_of_length_le fewer]
      exact ⟨mem_missing.mpr ⟨⟨low, high⟩, fresh⟩, rfl⟩
    · have apart : b.height.toNat ∉ s.missing min max := fun mem => by
        have inside := (mem_missing.mp mem).1
        omega
      rw [missingHeights_eq_take, missingHeights_eq_take, missing_insert_of_inserted c written,
        List.erase_of_not_mem apart]
  · intro min max limit
    have not : wasInserted (s.insert b).1 = false := by
      cases answer : (s.insert b).1 with
      | error e => rfl
      | ok outcome => exact (Bool.not_eq_true' _).mp (old outcome answer)
    rw [missingHeights_eq_take, missingHeights_eq_take, missing_insert_of_not_inserted c not]

/-- The block at height 4 takes it out of the answer for a range around it, and out of no other. -/
theorem fourth_taken_out :
    let s := (empty .lenient).run
      [.insert (.empty 1 0), .insert (.empty 1 1), .insert (.empty 1 3), .insert (.empty 1 5)]
    let after := (s.insert (.empty 1 4)).2
    s.missingHeights 0 5 2 = [4, 2] ∧ after.missingHeights 0 5 2 = [2] ∧
      after.missingHeights 5 9 2 = [9, 8] ∧
      (after.insert (.empty 1 4)).2.missingHeights 0 5 2 = [2] := by
  intro s after
  have before : s.missingHeights 0 5 2 = [4, 2] := by decide +kernel
  have beside : s.missingHeights 5 9 2 = [9, 8] := by decide +kernel
  obtain ⟨-, inserts⟩ := missing_exact .lenient
    [.insert (.empty 1 0), .insert (.empty 1 1), .insert (.empty 1 3), .insert (.empty 1 5)]
  obtain ⟨-, -, answers⟩ := (inserts (.empty 1 4)).1 (.inserted 4) (by decide +kernel) rfl
  obtain ⟨-, again⟩ := missing_exact .lenient
    [.insert (.empty 1 0), .insert (.empty 1 1), .insert (.empty 1 3), .insert (.empty 1 5),
      .insert (.empty 1 4)]
  have stored : (after.insert (.empty 1 4)).1 = .ok (.alreadyIndexed 4) := by decide +kernel
  have same := (again (.empty 1 4)).2 fun outcome ok => by
    cases stored.symm.trans ok
    rfl
  have taken : after.missingHeights 0 5 2 = [2] := by
    rw [((answers 0 5 2).1 (by decide) (by decide) (by decide +kernel)).2]
    exact congrArg (List.erase · 4) before
  exact ⟨before, taken, ((answers 5 9 2).2 (.inl (by decide))).trans beside,
    (same 0 5 2).trans taken⟩

end BlockIndexer.Store
