import BlockIndexer.Gap.Scan
import BlockIndexer.Proofs.Gap.Window
import BlockIndexer.Proofs.Queue
import BlockIndexer.Proofs.Store.Missing

/-! A pass of the scanner over a store that answers it. The windows of the pass follow each other
without a gap, and each asks for as many heights as it is wide, so that the pass queues all missing
heights of the range that its windows cover, each of them once. -/

namespace BlockIndexer

namespace Store

/-- The heights that are not stored in the windows of a whole walk, the highest first. The walk has
so many heights below it. -/
def gaps (s : Store) (room size count : Nat) : List Nat :=
  let width := min count (room / size) * size
  s.missingAbove (room - width) width width

variable {s : Store} {room size count h : Nat}

theorem mem_gaps : h ∈ s.gaps room size count ↔
    (room - min count (room / size) * size ≤ h ∧ h < room) ∧ s.contains h = false := by
  have fits : min count (room / size) * size ≤ room :=
    Nat.le_trans (Nat.mul_le_mul_right size (Nat.min_le_right ..)) (Nat.div_mul_le_self ..)
  rw [gaps, missingAbove_eq_filter (Nat.le_refl _), List.mem_reverse, List.mem_filter,
    List.mem_range'_1, Nat.sub_add_cancel fits, Bool.not_eq_true']

theorem gaps_fall (s : Store) (room size count : Nat) :
    (s.gaps room size count).Pairwise (· > ·) :=
  s.missingAbove_falls ..

theorem gaps_eq_nil (none : min count (room / size) = 0) : s.gaps room size count = [] := by
  rw [gaps, none, Nat.zero_mul, missingAbove]

/-- The first window lies right below the room, and the rest of the walk below it. -/
theorem gaps_succ (positive : 0 < size) (fits : size ≤ room) :
    s.gaps room size (count + 1) =
      s.missingAbove (room - size) size size ++ s.gaps (room - size) size count := by
  have windows : min (count + 1) (room / size) = min count ((room - size) / size) + 1 := by
    rw [Nat.div_eq_sub_div positive fits, Nat.succ_min_succ]
  have below : min count ((room - size) / size) * size ≤ room - size :=
    Nat.le_trans (Nat.mul_le_mul_right size (Nat.min_le_right ..)) (Nat.div_mul_le_self ..)
  have low : room - (min count ((room - size) / size) * size + size) =
      room - size - min count ((room - size) / size) * size := by
    omega
  simp only [gaps]
  rw [windows, Nat.succ_mul, missingAbove_add, low, Nat.sub_add_cancel below]

end Store

namespace GapScanner

variable {scanner : GapScanner} {db : Database} {q : Queue} {report : GapReport}
  {window : Window} {windows rest : ScanWindows}

theorem scanAll_of_none (none : windows.next? = none) :
    scanner.scanAll db q report windows = (.ok report, q) := by
  rw [scanAll]
  split
  · rfl
  next some =>
    rw [none] at some
    contradiction

theorem scanAll_of_some (answers : db.refusals.lookup .missingHeights = none)
    (some : windows.next? = some (window, rest)) {missing : List Nat}
    (eq : db.store.missingHeights window.min window.max scanner.windowSize = missing) :
    scanner.scanAll db q report windows =
      scanner.scanAll db (q.pushAll missing) (report.add missing) rest := by
  have scanned : scanner.scanWindow db q window = (.ok missing, q.pushAll missing) := by
    simp only [scanWindow, Database.missingHeights, Database.ask, answers, eq]
  rw [scanAll]
  split
  next none =>
    rw [none] at some
    contradiction
  next window' rest' some' =>
    rw [some] at some'
    cases some'
    rw [scanned]

theorem scanAll_ofRoom (answers : db.refusals.lookup .missingHeights = none)
    (room count : Nat) :
    scanner.scanAll db q report (.ofRoom room scanner.windowSize count) =
      (.ok ⟨report.windows + min count (room / scanner.windowSize),
          report.enqueued + (db.store.gaps room scanner.windowSize count).length⟩,
        q.pushAll (db.store.gaps room scanner.windowSize count)) := by
  -- The induction is on the windows that the walk may still yield, each with less room below it.
  induction count generalizing room q report with
  | zero =>
    have none := ScanWindows.next?_ofRoom room scanner.windowSize 0
    rw [if_neg (by omega)] at none
    rw [scanAll_of_none none, Store.gaps_eq_nil (Nat.zero_min _), Nat.zero_min]
    rfl
  | succ count ih =>
    have next := ScanWindows.next?_ofRoom room scanner.windowSize (count + 1)
    by_cases fits : 0 < scanner.windowSize ∧ scanner.windowSize ≤ room
    · obtain ⟨positive, wide⟩ := fits
      rw [if_pos ⟨Nat.succ_pos count, positive, wide⟩, Nat.add_sub_cancel] at next
      have first : db.store.missingHeights (room - scanner.windowSize) (room - 1)
          scanner.windowSize =
          db.store.missingAbove (room - scanner.windowSize) scanner.windowSize
            scanner.windowSize := by
        rw [Store.missingHeights, show room - 1 + 1 - (room - scanner.windowSize) =
          scanner.windowSize by omega]
      rw [scanAll_of_some answers next first, ih, Store.gaps_succ positive wide,
        Nat.div_eq_sub_div positive wide, Nat.succ_min_succ, Queue.pushAll_append,
        List.length_append, GapReport.add, Nat.add_assoc, Nat.add_assoc,
        Nat.add_comm 1]
    · have none : min (count + 1) (room / scanner.windowSize) = 0 := by
        have zero : room / scanner.windowSize = 0 := by
          rw [Nat.div_eq_zero_iff]
          omega
        rw [zero, Nat.min_zero]
      rw [if_neg (by omega)] at next
      rw [scanAll_of_none next, Store.gaps_eq_nil none, none]
      rfl

/-- A height is covered by the windows of a pass below a tip. -/
def Covers (scanner : GapScanner) (tip h : Nat) : Prop :=
  let windows := ScanWindows.windowCount tip scanner.windowSize scanner.maxWindows
  tip + 1 - windows * scanner.windowSize ≤ h ∧ h ≤ tip

instance (scanner : GapScanner) (tip h : Nat) : Decidable (scanner.Covers tip h) :=
  inferInstanceAs (Decidable (_ ∧ _))

/-- What a pass below a tip finds missing, the highest first. -/
def gaps (scanner : GapScanner) (s : Store) (tip : Nat) : List Nat :=
  s.gaps (tip + 1) scanner.windowSize scanner.maxWindows

variable {s : Store} {tip h : Nat}

theorem mem_gaps : h ∈ scanner.gaps s tip ↔ scanner.Covers tip h ∧ s.contains h = false := by
  rw [gaps, Store.mem_gaps, Nat.lt_succ_iff]
  rfl

theorem gaps_fall (scanner : GapScanner) (s : Store) (tip : Nat) :
    (scanner.gaps s tip).Pairwise (· > ·) :=
  s.gaps_fall ..

theorem gaps_nodup (scanner : GapScanner) (s : Store) (tip : Nat) :
    (scanner.gaps s tip).Nodup :=
  (scanner.gaps_fall s tip).imp Nat.ne_of_gt

/-- A queue that was empty hands out the gaps in the order in which a pass finds them. -/
theorem toList_pushAll_gaps (scanner : GapScanner) (s : Store) (tip : Nat) :
    (Queue.empty.pushAll (scanner.gaps s tip)).toList = scanner.gaps s tip :=
  Queue.toList_pushAll_of_falling (scanner.gaps_fall s tip)

/-- A pass with an empty queue queues the gaps, and reports how many they are. -/
theorem pass_ofStore (scanner : GapScanner) (s : Store) (tip : Nat) :
    let queue := Queue.empty.pushAll (scanner.gaps s tip)
    scanner.pass (.ofStore s) .empty tip =
      (.ok ⟨ScanWindows.windowCount tip scanner.windowSize scanner.maxWindows, queue.size⟩,
        queue) := by
  intro queue
  have size : queue.size = (scanner.gaps s tip).length := by
    rw [Queue.size, scanner.toList_pushAll_gaps]
  have answers : (Database.ofStore s).refusals.lookup .missingHeights = none := rfl
  rw [pass, windows, ScanWindows.below_eq_ofRoom, scanAll_ofRoom answers, GapReport.none,
    Nat.zero_add, Nat.zero_add, size]
  rfl

end GapScanner

end BlockIndexer
