import BlockIndexer.Store.Basic

/-! The table of blocks. A block row is put in its place by height: the other rows stay where they
are found, rows of rising height still rise, and nothing that is added later touches the table. -/

namespace BlockIndexer.Tables

theorem placeBlock_perm (height : Nat) (row : BlockRow) (bs : List (Nat × BlockRow)) :
    (placeBlock height row bs).Perm ((height, row) :: bs) := by
  induction bs with
  | nil => exact .refl _
  | cons b bs ih =>
    obtain ⟨h, r⟩ := b
    unfold placeBlock
    split
    · exact .refl _
    · exact (ih.cons _).trans (.swap ..)

theorem mem_placeBlock {height : Nat} {row : BlockRow} {bs : List (Nat × BlockRow)}
    {b : Nat × BlockRow} : b ∈ placeBlock height row bs ↔ b = (height, row) ∨ b ∈ bs := by
  rw [(placeBlock_perm height row bs).mem_iff, List.mem_cons]

theorem sorted_placeBlock {height : Nat} {row : BlockRow} {bs : List (Nat × BlockRow)}
    (sorted : bs.Pairwise (·.1 < ·.1)) (absent : ∀ b ∈ bs, b.1 ≠ height) :
    (placeBlock height row bs).Pairwise (·.1 < ·.1) := by
  induction sorted with
  | nil => simp [placeBlock]
  | @cons b bs above sorted ih =>
    obtain ⟨h, r⟩ := b
    unfold placeBlock
    split
    next below =>
      refine .cons (fun x hx => ?_) (.cons above sorted)
      rcases List.mem_cons.mp hx with rfl | hx
      · exact below
      · exact Nat.lt_trans below (above x hx)
    next below =>
      have hne : h ≠ height := absent (h, r) List.mem_cons_self
      refine .cons (fun x hx => ?_) (ih fun x hx => absent x (List.mem_cons_of_mem _ hx))
      rcases mem_placeBlock.mp hx with rfl | hx
      · show h < height
        omega
      · exact above x hx

theorem lookup_cons_eq_ite (height h : Nat) (row : BlockRow) (bs : List (Nat × BlockRow)) :
    ((height, row) :: bs).lookup h = if h = height then some row else bs.lookup h := by
  rw [List.lookup_cons]
  split
  next heq => rw [if_pos (beq_iff_eq.mp heq)]
  next hne => rw [if_neg (beq_eq_false_iff_ne.mp hne)]

theorem lookup_placeBlock {height : Nat} {row : BlockRow} {bs : List (Nat × BlockRow)}
    (absent : bs.lookup height = none) (h : Nat) :
    (placeBlock height row bs).lookup h = if h = height then some row else bs.lookup h := by
  induction bs with
  | nil => exact lookup_cons_eq_ite height h row []
  | cons b bs ih =>
    obtain ⟨h', r⟩ := b
    rw [lookup_cons_eq_ite] at absent
    have hne : height ≠ h' := fun heq => by simp [heq] at absent
    rw [if_neg hne] at absent
    unfold placeBlock
    split
    · rw [lookup_cons_eq_ite]
    · rw [lookup_cons_eq_ite, lookup_cons_eq_ite, ih absent]
      by_cases hh : h = height
      · rw [if_pos hh, if_pos hh, if_neg (hh ▸ hne)]
      · rw [if_neg hh, if_neg hh]

theorem contains_eq_false_iff {t : Tables} {height : Nat} :
    t.contains height = false ↔ t.blocks.lookup height = none := by
  rw [contains, block?, ← Bool.not_eq_true, Option.not_isSome_iff_eq_none]

theorem contains_iff {t : Tables} {height : Nat} :
    t.contains height = true ↔ ∃ b ∈ t.blocks, b.1 = height := by
  simp only [contains, block?, List.lookup_isSome_iff, beq_iff_eq, eq_comm (a := height)]

/-- What the tables come to, and the outcome, when all rows of a block are staged. -/
def addRows (t : Tables) (rows : BlockRows) : Tables × Outcome :=
  let (staged, outcome) :=
    rows.transactions.foldl (Staged.addTransaction t) (.empty, .inserted rows.height)
  (t.commit rows.height rows.block staged, outcome)

/-- The rows of a block add one row to the table of blocks. -/
theorem blocks_addRows (t : Tables) (rows : BlockRows) :
    (t.addRows rows).1.blocks = placeBlock rows.height rows.block t.blocks :=
  rfl

theorem block?_addRows {t : Tables} {rows : BlockRows} (absent : t.contains rows.height = false)
    (h : Nat) :
    (t.addRows rows).1.block? h = if h = rows.height then some rows.block else t.block? h := by
  rw [block?, blocks_addRows, lookup_placeBlock (contains_eq_false_iff.mp absent), block?]

theorem block?_addRows_of_some {t : Tables} {rows : BlockRows}
    (absent : t.contains rows.height = false) {h : Nat} {row : BlockRow}
    (stored : t.block? h = some row) : (t.addRows rows).1.block? h = some row := by
  have other : h ≠ rows.height := by
    rintro rfl
    have present : t.contains rows.height = true := Option.isSome_iff_exists.mpr ⟨row, stored⟩
    exact Bool.false_ne_true (absent.symm.trans present)
  rw [block?_addRows absent, if_neg other, stored]

end BlockIndexer.Tables
