/-! The queue of heights to index. It hands out the highest height first and keeps every copy of a
height that is put in more than once. -/

namespace BlockIndexer

structure Queue where
  /-- The heights in the order in which they will be handed out. -/
  toList : List Nat
  sorted : toList.Pairwise (· ≥ ·)
  deriving DecidableEq, Repr

namespace Queue

def empty : Queue := ⟨[], .nil⟩

/-- A height in its place among heights that fall. -/
def place (h : Nat) : List Nat → List Nat
  | [] => [h]
  | h' :: hs => if h' ≤ h then h :: h' :: hs else h' :: place h hs

theorem mem_place {h x : Nat} {hs : List Nat} : x ∈ place h hs ↔ x = h ∨ x ∈ hs := by
  induction hs with
  | nil => simp [place]
  | cons h' hs ih =>
    unfold place
    split
    · simp
    · simp only [List.mem_cons, ih]
      exact or_left_comm

theorem place_sorted {h : Nat} {hs : List Nat} (sorted : hs.Pairwise (· ≥ ·)) :
    (place h hs).Pairwise (· ≥ ·) := by
  induction sorted with
  | nil => simp [place]
  | @cons h' hs above rest ih =>
    unfold place
    split
    next le =>
      refine .cons (fun x hx => ?_) (.cons above rest)
      rcases List.mem_cons.1 hx with rfl | hx
      · exact le
      · exact Nat.le_trans (above x hx) le
    next gt =>
      refine .cons (fun x hx => ?_) ih
      rcases mem_place.1 hx with rfl | hx
      · omega
      · exact above x hx

def push (q : Queue) (h : Nat) : Queue := ⟨place h q.toList, place_sorted q.sorted⟩

def pushAll (q : Queue) (hs : List Nat) : Queue := hs.foldl push q

/-- The highest height and the queue without one copy of it. -/
def pop? : Queue → Option (Nat × Queue)
  | ⟨[], _⟩ => none
  | ⟨h :: hs, sorted⟩ => some (h, ⟨hs, sorted.tail⟩)

/-- The queue after `n` heights have been handed out. -/
def drop (q : Queue) (n : Nat) : Queue := ⟨q.toList.drop n, q.sorted.drop⟩

def size (q : Queue) : Nat := q.toList.length

def isEmpty (q : Queue) : Bool := q.toList.isEmpty

end Queue

end BlockIndexer
