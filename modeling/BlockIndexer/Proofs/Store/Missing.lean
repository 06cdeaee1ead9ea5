import BlockIndexer.Store.Basic

/-! Missing heights. A query answers the highest heights of its range that are not stored, as many
as it may. One that may answer as many as its range holds answers all of them. -/

namespace BlockIndexer.Store

variable {s : Store} {min max span limit h : Nat}

theorem missingAbove_eq_take (s : Store) (min span limit : Nat) :
    s.missingAbove min span limit =
      ((List.range' min span).filter fun h => !s.contains h).reverse.take limit := by
  induction span generalizing limit with
  | zero => rw [missingAbove, List.range'_zero, List.filter_nil, List.reverse_nil, List.take_nil]
  | succ span ih =>
    cases limit with
    | zero => rw [missingAbove, List.take_zero]
    | succ limit =>
      have split : List.range' min (span + 1) = List.range' min span ++ [min + span] := by
        rw [List.range'_concat, Nat.one_mul]
      rw [missingAbove, split, List.filter_append, List.reverse_append]
      cases stored : s.contains (min + span) with
      | true =>
        rw [if_pos rfl, ih, List.filter_cons_of_neg (by simp [stored])]
        rfl
      | false =>
        rw [if_neg Bool.false_ne_true, ih, List.filter_cons_of_pos (by simp [stored])]
        rfl

theorem missingAbove_eq_filter (large : span ≤ limit) :
    s.missingAbove min span limit =
      ((List.range' min span).filter fun h => !s.contains h).reverse := by
  rw [missingAbove_eq_take, List.take_of_length_le]
  calc ((List.range' min span).filter fun h => !s.contains h).reverse.length
    _ = ((List.range' min span).filter fun h => !s.contains h).length := List.length_reverse
    _ ≤ (List.range' min span).length := List.length_filter_le ..
    _ = span := List.length_range'
    _ ≤ limit := large

theorem missingHeights_eq_filter (large : max + 1 - min ≤ limit) :
    s.missingHeights min max limit =
      ((List.range' min (max + 1 - min)).filter fun h => !s.contains h).reverse :=
  missingAbove_eq_filter large

theorem mem_missingHeights (large : max + 1 - min ≤ limit) :
    h ∈ s.missingHeights min max limit ↔ min ≤ h ∧ h ≤ max ∧ s.contains h = false := by
  rw [missingHeights_eq_filter large, List.mem_reverse, List.mem_filter, List.mem_range'_1,
    Bool.not_eq_true', and_assoc]
  refine and_congr_right fun hlow => and_congr_left fun _ => ?_
  omega

/-- The missing heights of two ranges, one right above the other. -/
theorem missingAbove_add (s : Store) (min low high : Nat) :
    s.missingAbove min (low + high) (low + high) =
      s.missingAbove (min + low) high high ++ s.missingAbove min low low := by
  have split : List.range' min (low + high) =
      List.range' min low ++ List.range' (min + low) high := by
    rw [← List.range'_append, Nat.one_mul]
  rw [missingAbove_eq_filter (Nat.le_refl _), missingAbove_eq_filter (Nat.le_refl _),
    missingAbove_eq_filter (Nat.le_refl _), split, List.filter_append, List.reverse_append]

theorem missingAbove_falls (s : Store) (min span limit : Nat) :
    (s.missingAbove min span limit).Pairwise (· > ·) := by
  rw [missingAbove_eq_take]
  refine List.Pairwise.sublist (List.take_sublist ..) (List.pairwise_reverse.mpr ?_)
  exact (List.pairwise_lt_range' 1).filter _

end BlockIndexer.Store
