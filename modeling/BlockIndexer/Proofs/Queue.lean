import BlockIndexer.Queue

/-! The queue as a list of heights: what is put in is in it, and what is handed out is its head. -/

namespace BlockIndexer.Queue

variable {q q' : Queue} {h x : Nat}

theorem mem_push : x ∈ (q.push h).toList ↔ x = h ∨ x ∈ q.toList := mem_place

theorem mem_pushAll {hs : List Nat} : x ∈ (q.pushAll hs).toList ↔ x ∈ q.toList ∨ x ∈ hs := by
  induction hs generalizing q with
  | nil => simp [pushAll]
  | cons h hs ih =>
    show x ∈ ((q.push h).pushAll hs).toList ↔ _
    rw [ih, mem_push, List.mem_cons, or_assoc, or_left_comm]

theorem place_perm (h : Nat) (hs : List Nat) : (place h hs).Perm (h :: hs) := by
  induction hs with
  | nil => exact .refl _
  | cons h' hs ih =>
    unfold place
    split
    · exact .refl _
    · exact (ih.cons h').trans (.swap ..)

/-- Heights that are put in are added to those that were there, each copy of them. -/
theorem pushAll_perm (q : Queue) (hs : List Nat) : (q.pushAll hs).toList.Perm (hs ++ q.toList) := by
  induction hs generalizing q with
  | nil => exact .refl _
  | cons h hs ih =>
    have first : (q.push h).toList.Perm (h :: q.toList) := place_perm h q.toList
    exact (ih (q.push h)).trans ((first.append_left hs).trans List.perm_middle)

/-- A queue hands out falling heights as they were put in. -/
theorem toList_pushAll_of_falling {hs : List Nat} (falling : hs.Pairwise (· > ·)) :
    (empty.pushAll hs).toList = hs := by
  have perm := pushAll_perm empty hs
  rw [show empty.toList = [] from rfl, List.append_nil] at perm
  exact perm.eq_of_pairwise (fun a b _ _ hab hba => Nat.le_antisymm hba hab)
    (empty.pushAll hs).sorted (falling.imp Nat.le_of_lt)

theorem le_head {hs : List Nat} (h_eq : q.toList = h :: hs) (hx : x ∈ q.toList) : x ≤ h := by
  have sorted := q.sorted
  rw [h_eq] at sorted hx
  rcases List.mem_cons.mp hx with rfl | hx
  · exact Nat.le_refl x
  · exact List.rel_of_pairwise_cons sorted hx

theorem pushAll_append (q : Queue) (hs hs' : List Nat) :
    (q.pushAll hs).pushAll hs' = q.pushAll (hs ++ hs') :=
  List.foldl_append.symm

theorem toList_inj : q.toList = q'.toList ↔ q = q' :=
  ⟨fun h => by cases q; cases q'; cases h; rfl, fun h => h ▸ rfl⟩

theorem pop?_eq_some_iff : q.pop? = some (h, q') ↔ q.toList = h :: q'.toList := by
  obtain ⟨hs, sorted⟩ := q
  cases hs with
  | nil => simp [pop?]
  | cons h' hs => simp only [pop?, Option.some.injEq, Prod.mk.injEq, List.cons.injEq, ← toList_inj]

theorem toList_drop (q : Queue) (n : Nat) : (q.drop n).toList = q.toList.drop n := rfl

theorem drop_zero (q : Queue) : q.drop 0 = q := rfl

theorem drop_drop (q : Queue) (m n : Nat) : (q.drop m).drop n = q.drop (m + n) :=
  toList_inj.mp List.drop_drop

theorem isEmpty_iff : q.isEmpty = true ↔ q.toList = [] := List.isEmpty_iff

end BlockIndexer.Queue
