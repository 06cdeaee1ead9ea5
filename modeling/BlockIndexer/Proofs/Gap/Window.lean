import BlockIndexer.Gap.Window

/-! The walk of windows by the room that is left below it, which is how many heights have not been
passed yet. A window takes as much of the room as it is wide, so the walk from a tip yields as many
windows as fit into the heights up to the tip, and no more than it may. -/

namespace BlockIndexer.ScanWindows

/-- The walk with so many heights left below it. -/
def ofRoom (room size remaining : Nat) : ScanWindows :=
  ⟨if size = 0 ∨ room = 0 then none else some (room - 1), size, remaining⟩

theorem below_eq_ofRoom (tip size count : Nat) :
    below tip size count = ofRoom (tip + 1) size count := by
  simp [below, ofRoom]

/-- A window fits if it has a width, and the room is as wide. -/
theorem next?_ofRoom (room size remaining : Nat) :
    (ofRoom room size remaining).next? =
      if 0 < remaining ∧ 0 < size ∧ size ≤ room then
        some (⟨room - size, room - 1⟩, ofRoom (room - size) size (remaining - 1))
      else none := by
  cases remaining with
  | zero => simp [next?, ofRoom]
  | succ remaining =>
    by_cases h : size = 0 ∨ room = 0
    · rw [if_neg (by omega)]
      simp [next?, ofRoom, h]
    · have hroom : room - 1 + 1 = room := by omega
      simp only [next?, ofRoom, if_neg h, hroom]
      by_cases fits : size ≤ room
      · rw [if_neg (by omega),
          if_pos (show 0 < remaining + 1 ∧ 0 < size ∧ size ≤ room by omega)]
        have hzero : (size = 0 ∨ room - size = 0) ↔ room - size = 0 := by omega
        simp only [hzero, Nat.add_sub_cancel]
      · rw [if_pos (by omega), if_neg (by omega)]

/-- A walk of `count` windows from a tip, after the windows `seen`. -/
structure Walked (tip size count : Nat) (seen : List Window) (rest : ScanWindows) : Prop where
  rest_eq : ∃ room, rest = ofRoom room size (count - seen.length) ∧
    room + seen.length * size = tip + 1
  length_le : seen.length ≤ count
  eq_nil : size = 0 → seen = []
  covers : ∀ h, tip + 1 - seen.length * size ≤ h → h ≤ tip → ∃ w ∈ seen, w.min ≤ h ∧ h ≤ w.max

variable {tip size count : Nat} {seen : List Window} {rest rest' : ScanWindows} {w : Window}

theorem walked_below (tip size count : Nat) : Walked tip size count [] (below tip size count) where
  rest_eq := ⟨tip + 1, by simp [below_eq_ofRoom], by simp⟩
  length_le := Nat.zero_le count
  eq_nil _ := rfl
  covers h hlow hhigh := by simp at hlow; omega

/-- The next window begins as many heights below the last one as it is wide. -/
theorem Walked.window_eq (walked : Walked tip size count seen rest)
    (h : rest.next? = some (w, rest')) :
    0 < size ∧ seen.length < count ∧ w.min + (seen.length + 1) * size = tip + 1 ∧
      w.max + 1 = w.min + size ∧ rest' = ofRoom w.min size (count - (seen.length + 1)) := by
  obtain ⟨room, rfl, hroom⟩ := walked.rest_eq
  rw [next?_ofRoom] at h
  split at h
  next fits =>
    simp only [Option.some.injEq, Prod.mk.injEq] at h
    obtain ⟨rfl, rfl⟩ := h
    have : (seen.length + 1) * size = seen.length * size + size := Nat.succ_mul _ _
    exact ⟨fits.2.1, by omega, by dsimp only; omega, by dsimp only; omega, by rw [Nat.sub_sub]⟩
  next => contradiction

theorem Walked.next (walked : Walked tip size count seen rest)
    (h : rest.next? = some (w, rest')) : Walked tip size count (seen ++ [w]) rest' := by
  obtain ⟨positive, hcount, hmin, hmax, hrest⟩ := walked.window_eq h
  have hlen : (seen ++ [w]).length = seen.length + 1 := by simp
  have hmul : (seen.length + 1) * size = seen.length * size + size := Nat.succ_mul _ _
  refine ⟨⟨w.min, hlen ▸ hrest, hlen ▸ hmin⟩, hlen ▸ hcount, fun hzero => by omega, ?_⟩
  rw [hlen]
  intro x hlow hhigh
  by_cases old : tip + 1 - seen.length * size ≤ x
  · obtain ⟨w', hw', hx⟩ := walked.covers x old hhigh
    exact ⟨w', List.mem_append_left _ hw', hx⟩
  · exact ⟨w, by simp, by omega, by omega⟩

/-- The `i`-th window below a tip, if there are so many. -/
def windowAt (tip size i : Nat) : Window := ⟨tip + 1 - (i + 1) * size, tip - i * size⟩

theorem Walked.eq_windowAt (walked : Walked tip size count seen rest)
    (h : rest.next? = some (w, rest')) : w = windowAt tip size seen.length := by
  obtain ⟨positive, -, hmin, hmax, -⟩ := walked.window_eq h
  have hmul : (seen.length + 1) * size = seen.length * size + size := Nat.succ_mul _ _
  obtain ⟨low, high⟩ := w
  simp only [windowAt, Window.mk.injEq] at hmin hmax ⊢
  omega

/-- Later windows lie below earlier ones, as long as all of them fit. -/
theorem windowAt_below {i j : Nat} (lt : i < j) (fits : (j + 1) * size ≤ tip + 1)
    (positive : 0 < size) : (windowAt tip size j).max < (windowAt tip size i).min := by
  have hstep : (i + 1) * size ≤ j * size := Nat.mul_le_mul_right size lt
  have hmul : (j + 1) * size = j * size + size := Nat.succ_mul _ _
  simp only [windowAt]
  omega

theorem windowAt_falls {n : Nat} (positive : 0 < size) (fits : n * size ≤ tip + 1) :
    ((List.range n).map (windowAt tip size)).Pairwise (·.min > ·.max) := by
  rw [List.pairwise_map]
  refine (List.pairwise_lt_range (n := n)).imp_of_mem fun {i j} _ hj hlt => ?_
  have hlast : (j + 1) * size ≤ n * size := Nat.mul_le_mul_right size (List.mem_range.mp hj)
  exact windowAt_below hlt (Nat.le_trans hlast fits) positive

theorem Walked.fits (walked : Walked tip size count seen rest) : seen.length * size ≤ tip + 1 := by
  obtain ⟨room, -, hroom⟩ := walked.rest_eq
  omega

/-- The number of windows of a whole walk. -/
def windowCount (tip size count : Nat) : Nat := min count ((tip + 1) / size)

theorem Walked.length_le_windowCount (walked : Walked tip size count seen rest) :
    seen.length ≤ windowCount tip size count := by
  refine Nat.le_min.mpr ⟨walked.length_le, ?_⟩
  cases Nat.eq_zero_or_pos size with
  | inl hzero => simp [walked.eq_nil hzero]
  | inr positive =>
    obtain ⟨room, -, hroom⟩ := walked.rest_eq
    exact (Nat.le_div_iff_mul_le positive).mpr (by omega)

/-- A walk ends when all its windows have been yielded, and not before. -/
theorem Walked.next?_eq_none_iff (walked : Walked tip size count seen rest) :
    rest.next? = none ↔ seen.length = windowCount tip size count := by
  have hle := walked.length_le_windowCount
  obtain ⟨room, rfl, hroom⟩ := walked.rest_eq
  have hfits : size ≤ room ↔ (seen.length + 1) * size ≤ tip + 1 := by
    rw [Nat.succ_mul]
    omega
  rw [next?_ofRoom, ite_eq_right_iff]
  simp only [reduceCtorEq, imp_false, not_and, hfits]
  constructor
  · intro h
    refine Nat.le_antisymm hle (Nat.not_lt.mp fun hlt => ?_)
    obtain ⟨hcount, hdiv⟩ := Nat.lt_min.mp hlt
    have positive : 0 < size := Nat.pos_of_ne_zero fun hzero => by simp [hzero] at hdiv
    exact h (by omega) positive ((Nat.le_div_iff_mul_le positive).mp hdiv)
  · intro h hcount positive hmul
    have hdiv := (Nat.le_div_iff_mul_le positive).mpr hmul
    have : seen.length + 1 ≤ windowCount tip size count := Nat.le_min.mpr ⟨by omega, hdiv⟩
    omega

theorem fits_of_lt_windowCount {i : Nat} (h : i < windowCount tip size count) :
    0 < size ∧ (i + 1) * size ≤ tip + 1 := by
  obtain ⟨-, hdiv⟩ := Nat.lt_min.mp h
  have positive : 0 < size := Nat.pos_of_ne_zero fun hzero => by simp [hzero] at hdiv
  exact ⟨positive, (Nat.le_div_iff_mul_le positive).mp hdiv⟩

/-- Each window of a walk is as wide as it has to be, and lies in the range of the walk. -/
theorem windowAt_width {i : Nat} (h : i < windowCount tip size count) :
    (windowAt tip size i).max + 1 = (windowAt tip size i).min + size ∧
      tip + 1 - windowCount tip size count * size ≤ (windowAt tip size i).min ∧
      (windowAt tip size i).max ≤ tip := by
  obtain ⟨positive, fits⟩ := fits_of_lt_windowCount h
  have hmul : (i + 1) * size = i * size + size := Nat.succ_mul _ _
  have hlast : (i + 1) * size ≤ windowCount tip size count * size := Nat.mul_le_mul_right size h
  simp only [windowAt]
  omega

/-- The windows of a walk leave out no height of its range. -/
theorem exists_windowAt {h : Nat} (low : tip + 1 - windowCount tip size count * size ≤ h)
    (high : h ≤ tip) : ∃ i < windowCount tip size count,
      (windowAt tip size i).min ≤ h ∧ h ≤ (windowAt tip size i).max := by
  have positive : 0 < size := Nat.pos_of_ne_zero fun hzero => by
    rw [hzero, Nat.mul_zero] at low
    omega
  have before : (tip - h) / size * size ≤ tip - h := Nat.div_mul_le_self _ _
  have after : tip - h < ((tip - h) / size + 1) * size := by
    rw [Nat.mul_comm]
    exact Nat.lt_mul_div_succ _ positive
  refine ⟨(tip - h) / size, (Nat.div_lt_iff_lt_mul positive).mpr (by omega), ?_⟩
  simp only [windowAt]
  omega

end BlockIndexer.ScanWindows
