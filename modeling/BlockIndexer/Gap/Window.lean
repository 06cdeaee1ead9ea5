/-! Windows of heights, walked from the tip downward. All windows are equally wide; the walk ends
when it has yielded as many as it may, or when the next one would reach below zero. -/

namespace BlockIndexer

structure Window where
  min : Nat
  max : Nat
  deriving DecidableEq, Repr

/-- The windows still to come: the upper end of the next one, if there is room for any, the width
of each, and how many may be yielded. -/
structure ScanWindows where
  top : Option Nat
  size : Nat
  remaining : Nat
  deriving DecidableEq, Repr

namespace ScanWindows

def below (tip size count : Nat) : ScanWindows :=
  ⟨if size = 0 then none else some tip, size, count⟩

/-- The next window, and the windows after it. -/
def next? (w : ScanWindows) : Option (Window × ScanWindows) :=
  match w.remaining, w.top with
  | 0, _ => none
  | _, none => none
  | remaining + 1, some max =>
    if max + 1 < w.size then none
    else
      let min := max + 1 - w.size
      some (⟨min, max⟩, { w with top := if min = 0 then none else some (min - 1), remaining })

/-- The first `n` windows, and what comes after them. -/
def take : Nat → ScanWindows → List Window × ScanWindows
  | 0, w => ([], w)
  | n + 1, w =>
    match w.next? with
    | none => ([], w)
    | some (window, w') => (window :: (take n w').1, (take n w').2)

theorem remaining_of_next? {w w' : ScanWindows} {window : Window}
    (h : w.next? = some (window, w')) : w.remaining = w'.remaining + 1 := by
  unfold next? at h
  split at h
  next => simp at h
  next => simp at h
  next remaining _ hr _ =>
    split at h
    · simp at h
    · simp only [Option.some.injEq, Prod.mk.injEq] at h
      rw [hr, ← h.2]

end ScanWindows

end BlockIndexer
