import BlockIndexer.Gap.Window
import BlockIndexer.Queue
import BlockIndexer.Store.Database

/-! Looking for gaps. A scan of a window puts its missing heights into the queue, highest first; a
pass scans window after window below the tip and ends with the first query that fails. -/

namespace BlockIndexer

/-- The width of a window and the number of windows of a pass. -/
structure GapScanner where
  windowSize : Nat
  maxWindows : Nat
  deriving DecidableEq, Repr

structure GapReport where
  windows : Nat
  enqueued : Nat
  deriving DecidableEq, Repr

namespace GapReport

def none : GapReport := ⟨0, 0⟩

def add (report : GapReport) (heights : List Nat) : GapReport :=
  ⟨report.windows + 1, report.enqueued + heights.length⟩

end GapReport

namespace GapScanner

def windows (scanner : GapScanner) (tip : Nat) : ScanWindows :=
  .below tip scanner.windowSize scanner.maxWindows

/-- Puts the missing heights of a window into the queue, as many as a window is wide. -/
def scanWindow (scanner : GapScanner) (db : Database) (q : Queue) (window : Window) :
    Except Error (List Nat) × Queue :=
  match db.missingHeights window.min window.max scanner.windowSize with
  | .error e => (.error e, q)
  | .ok heights => (.ok heights, q.pushAll heights)

def scanAll (scanner : GapScanner) (db : Database) (q : Queue) (report : GapReport)
    (windows : ScanWindows) : Except Error GapReport × Queue :=
  match _h : windows.next? with
  | none => (.ok report, q)
  | some (window, rest) =>
    match scanner.scanWindow db q window with
    | (.error e, q) => (.error e, q)
    | (.ok heights, q) => scanAll scanner db q (report.add heights) rest
termination_by windows.remaining
decreasing_by
  have := ScanWindows.remaining_of_next? _h
  omega

/-- One pass over the windows below a tip. -/
def pass (scanner : GapScanner) (db : Database) (q : Queue) (tip : Nat) :
    Except Error GapReport × Queue :=
  scanner.scanAll db q .none (scanner.windows tip)

end GapScanner

end BlockIndexer
