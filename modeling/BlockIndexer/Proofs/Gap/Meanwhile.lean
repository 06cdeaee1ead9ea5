import BlockIndexer.Proofs.Gap.Pass
import BlockIndexer.Proofs.Store.WriteOnce

/-! A pass of the scanner while others work on the store. What a window yields is what is missing
from it by then; the pass goes on from window to window, as long as its queries are answered. Since
heights are never taken out of the store, a height that is missing in the end was missing when its
window was read, so that the pass has put it into the queue. -/

namespace BlockIndexer

/-- What happens before a window is read: the work of others on the store, and the queries that are
refused from then on. -/
structure Meanwhile where
  work : List Operation
  refusals : List (Query × String)

namespace Database

def meanwhile (db : Database) (others : Meanwhile) : Database :=
  ⟨db.store.run others.work, others.refusals⟩

/-- The database after what happened before each of the first `n` windows. -/
def before (db : Database) (others : Nat → Meanwhile) : Nat → Database
  | 0 => db
  | n + 1 => (db.before others n).meanwhile (others n)

variable {db : Database} {others : Nat → Meanwhile}

theorem consistent_before (c : db.store.tables.Consistent) (n : Nat) :
    (db.before others n).store.tables.Consistent := by
  induction n with
  | zero => exact c
  | succ n ih => exact Store.consistent_run ih (others n).work

theorem contains_before_of_le (c : db.store.tables.Consistent) {m n h : Nat} (le : m ≤ n)
    (stored : (db.before others m).store.contains h = true) :
    (db.before others n).store.contains h = true := by
  induction le with
  | refl => exact stored
  | step _ ih => exact Store.contains_run (consistent_before c _) (others _).work ih

end Database

namespace GapScanner

/-- The scan of the windows that are left, each of them as the database is by then. -/
def scanAllAmid (scanner : GapScanner) (others : Nat → Meanwhile) (db : Database) (q : Queue)
    (report : GapReport) (windows : ScanWindows) : Except Error GapReport × Database × Queue :=
  match _h : windows.next? with
  | none => (.ok report, db, q)
  | some (window, rest) =>
    let db := db.meanwhile (others report.windows)
    match scanner.scanWindow db q window with
    | (.error e, q) => (.error e, db, q)
    | (.ok heights, q) => scanAllAmid scanner others db q (report.add heights) rest
termination_by windows.remaining
decreasing_by
  have := ScanWindows.remaining_of_next? _h
  omega

/-- A pass over the windows below a tip, before each of which others may work on the database. -/
def passAmid (scanner : GapScanner) (others : Nat → Meanwhile) (db : Database) (q : Queue)
    (tip : Nat) : Except Error GapReport × Database × Queue :=
  scanner.scanAllAmid others db q .none (scanner.windows tip)

/-- What the query of the `i`-th window answers. -/
def answerAmid (scanner : GapScanner) (others : Nat → Meanwhile) (db : Database) (tip i : Nat) :
    Except Error (List Nat) :=
  let window := ScanWindows.windowAt tip scanner.windowSize i
  (db.before others (i + 1)).missingHeights window.min window.max scanner.windowSize

variable {scanner : GapScanner} {others : Nat → Meanwhile} {db : Database} {q : Queue}
  {report : GapReport} {window : Window} {windows rest : ScanWindows} {tip : Nat}

theorem scanAllAmid_of_none (none : windows.next? = none) :
    scanner.scanAllAmid others db q report windows = (.ok report, db, q) := by
  rw [scanAllAmid]
  split
  · rfl
  next some =>
    rw [none] at some
    contradiction

theorem scanAllAmid_of_some (some : windows.next? = some (window, rest)) {db' : Database}
    (changed : db.meanwhile (others report.windows) = db') :
    scanner.scanAllAmid others db q report windows =
      match scanner.scanWindow db' q window with
      | (.error e, q) => (.error e, db', q)
      | (.ok heights, q) => scanner.scanAllAmid others db' q (report.add heights) rest := by
  rw [scanAllAmid, ← changed]
  split
  next none =>
    rw [some] at none
    contradiction
  next window' rest' some' =>
    rw [some] at some'
    cases some'
    rfl

/-- If nobody does anything, a pass is what it is with the database to itself. -/
theorem scanAllAmid_idle (scanner : GapScanner) (db : Database) (q : Queue) (report : GapReport)
    (windows : ScanWindows) :
    scanner.scanAllAmid (fun _ => ⟨[], db.refusals⟩) db q report windows =
      ((scanner.scanAll db q report windows).1, db, (scanner.scanAll db q report windows).2) := by
  have same : db.meanwhile ⟨[], db.refusals⟩ = db := rfl
  fun_induction scanAll scanner db q report windows with
  | case1 q report windows none => rw [scanAllAmid_of_none none]
  | case2 q report windows window rest some e q' failed =>
    rw [scanAllAmid_of_some some same, failed]
  | case3 q report windows window rest some heights q' scanned ih =>
    rw [scanAllAmid_of_some some same, scanned]
    exact ih

/-- A scan of a window puts the highest of the missing heights into the queue, as many as a window
of a pass is wide. -/
theorem scanWindow_of_answers (answers : db.refusals.lookup .missingHeights = none) (q : Queue)
    (window : Window) :
    let missing := ((List.range' window.min (window.max + 1 - window.min)).filter
      fun h => !db.store.contains h).reverse
    let highest := missing.take scanner.windowSize
    scanner.scanWindow db q window = (.ok highest, q.pushAll highest) := by
  intro missing highest
  have found : db.store.missingHeights window.min window.max scanner.windowSize = highest :=
    Store.missingAbove_eq_take ..
  simp only [scanWindow, Database.missingHeights, Database.ask, answers, found]

/-- The first windows of a pass, if all of them are answered. -/
theorem passAmid_reads {found : Nat → List Nat} {n : Nat}
    (le : n ≤ ScanWindows.windowCount tip scanner.windowSize scanner.maxWindows)
    (answered : ∀ i < n, scanner.answerAmid others db tip i = .ok (found i)) :
    let pushed := (List.range n).flatMap found
    ∃ seen rest,
      ScanWindows.Walked tip scanner.windowSize scanner.maxWindows seen rest ∧ seen.length = n ∧
      scanner.passAmid others db q tip =
        scanner.scanAllAmid others (db.before others n) (q.pushAll pushed) ⟨n, pushed.length⟩
          rest := by
  induction n with
  | zero => exact ⟨[], _, ScanWindows.walked_below .., rfl, rfl⟩
  | succ n ih =>
    obtain ⟨seen, rest, walked, length, reads⟩ :=
      ih (Nat.le_of_succ_le le) fun i hi => answered i (Nat.lt_succ_of_lt hi)
    cases next : rest.next? with
    | none =>
      have := walked.next?_eq_none_iff.mp next
      omega
    | some step =>
      obtain ⟨window, rest'⟩ := step
      refine ⟨seen ++ [window], rest', walked.next next, by simp [length], ?_⟩
      have answer := answered n (Nat.lt_succ_self n)
      rw [answerAmid, ← length, ← walked.eq_windowAt next, length] at answer
      have scanned (q : Queue) : scanner.scanWindow (db.before others (n + 1)) q window =
          (.ok (found n), q.pushAll (found n)) := by
        rw [scanWindow, answer]
      have pushed : (List.range (n + 1)).flatMap found =
          (List.range n).flatMap found ++ found n := by
        rw [List.range_succ, List.flatMap_append, List.flatMap_singleton]
      have changed : (db.before others n).meanwhile (others n) = db.before others (n + 1) := rfl
      rw [reads, scanAllAmid_of_some next changed, scanned, pushed, ← Queue.pushAll_append,
        List.length_append]
      rfl

theorem passAmid_of_answered {found : Nat → List Nat}
    (answered : ∀ i < ScanWindows.windowCount tip scanner.windowSize scanner.maxWindows,
      scanner.answerAmid others db tip i = .ok (found i)) :
    let windows := ScanWindows.windowCount tip scanner.windowSize scanner.maxWindows
    let pushed := (List.range windows).flatMap found
    scanner.passAmid others db q tip =
      (.ok ⟨windows, pushed.length⟩, db.before others windows, q.pushAll pushed) := by
  intro windows pushed
  obtain ⟨seen, rest, walked, length, reads⟩ := passAmid_reads (Nat.le_refl _) answered
  rw [reads, scanAllAmid_of_none (walked.next?_eq_none_iff.mpr length)]

theorem passAmid_of_refused {found : Nat → List Nat} {n : Nat} {e : Error}
    (lt : n < ScanWindows.windowCount tip scanner.windowSize scanner.maxWindows)
    (answered : ∀ i < n, scanner.answerAmid others db tip i = .ok (found i))
    (refused : scanner.answerAmid others db tip n = .error e) :
    scanner.passAmid others db q tip =
      (.error e, db.before others (n + 1), q.pushAll ((List.range n).flatMap found)) := by
  obtain ⟨seen, rest, walked, length, reads⟩ := passAmid_reads (Nat.le_of_lt lt) answered
  cases next : rest.next? with
  | none =>
    have := walked.next?_eq_none_iff.mp next
    omega
  | some step =>
    obtain ⟨window, rest'⟩ := step
    rw [answerAmid, ← length, ← walked.eq_windowAt next, length] at refused
    have failed (q : Queue) : scanner.scanWindow (db.before others (n + 1)) q window =
        (.error e, q) := by
      rw [scanWindow, refused]
    have changed : (db.before others n).meanwhile (others n) = db.before others (n + 1) := rfl
    rw [reads, scanAllAmid_of_some next changed, failed]

section Answered

variable {i : Nat} {heights : List Nat}
  (lt : i < ScanWindows.windowCount tip scanner.windowSize scanner.maxWindows)
  (answered : scanner.answerAmid others db tip i = .ok heights)

include answered

theorem eq_missingHeights_of_answerAmid :
    let window := ScanWindows.windowAt tip scanner.windowSize i
    heights = (db.before others (i + 1)).store.missingHeights window.min window.max
      scanner.windowSize := by
  simp only [answerAmid, Database.missingHeights, Database.ask] at answered
  split at answered
  · contradiction
  · exact (Except.ok.inj answered).symm

theorem falls_of_answerAmid : heights.Pairwise (· > ·) := by
  rw [eq_missingHeights_of_answerAmid answered]
  exact Store.missingAbove_falls ..

include lt

/-- A window yields all heights that are missing from it, since it is as wide as the limit. -/
theorem mem_of_answerAmid {h : Nat} : h ∈ heights ↔
    ((ScanWindows.windowAt tip scanner.windowSize i).min ≤ h ∧
      h ≤ (ScanWindows.windowAt tip scanner.windowSize i).max) ∧
    (db.before others (i + 1)).store.contains h = false := by
  have width := (ScanWindows.windowAt_width lt).1
  rw [eq_missingHeights_of_answerAmid answered, Store.mem_missingHeights (by omega), and_assoc]

end Answered

/-- The windows fall, and so do the heights of each. -/
theorem pushed_falls {found : Nat → List Nat}
    (answered : ∀ i < ScanWindows.windowCount tip scanner.windowSize scanner.maxWindows,
      scanner.answerAmid others db tip i = .ok (found i)) :
    ((List.range (ScanWindows.windowCount tip scanner.windowSize scanner.maxWindows)).flatMap
      found).Pairwise (· > ·) := by
  refine List.pairwise_flatMap.mpr ⟨fun i hi => ?_, ?_⟩
  · exact falls_of_answerAmid (answered i (List.mem_range.mp hi))
  · refine List.pairwise_lt_range.imp_of_mem fun {i j} hi hj below h hh h' hh' => ?_
    have hi := List.mem_range.mp hi
    have hj := List.mem_range.mp hj
    have low := ((mem_of_answerAmid hi (answered i hi)).mp hh).1.1
    have high := ((mem_of_answerAmid hj (answered j hj)).mp hh').1.2
    obtain ⟨positive, fits⟩ := ScanWindows.fits_of_lt_windowCount hj
    exact Nat.lt_of_le_of_lt high
      (Nat.lt_of_lt_of_le (ScanWindows.windowAt_below below fits positive) low)

/-- A pass while others work on the store and refuse queries as they please. If all its windows are
answered, it covers their range: it puts heights of the range into the queue, the highest first and
each once, which are those that were missing when their window was read, so that none of the range
is left out that is missing in the end. It reports how many windows and heights there were, and what
became of the store is the work of the others. If the query of a window is refused, the pass ends
with the error of the refusal, and has put into the queue what the windows before it yielded. A scan
of any range puts the highest missing heights of it into the queue, as many as a window is wide.
Whatever is put into the queue is in it afterwards, beside what was there. -/
theorem finds_gaps (policy : NumericPolicy) (earlier : List Operation)
    (refusals : List (Query × String)) (scanner : GapScanner) (others : Nat → Meanwhile)
    (q : Queue) (tip : Nat) :
    let db : Database := ⟨(Store.empty policy).run earlier, refusals⟩
    let windows := ScanWindows.windowCount tip scanner.windowSize scanner.maxWindows
    let answer := scanner.answerAmid others db tip
    (∀ found : Nat → List Nat, (∀ i < windows, answer i = .ok (found i)) →
      let pushed := (List.range windows).flatMap found
      scanner.passAmid others db q tip =
        (.ok ⟨windows, pushed.length⟩, db.before others windows, q.pushAll pushed) ∧
      (scanner.passAmid others db q tip).2.2.toList.Perm (pushed ++ q.toList) ∧
      pushed.Pairwise (· > ·) ∧
      (∀ i < windows, ∀ h, h ∈ found i ↔
        ((ScanWindows.windowAt tip scanner.windowSize i).min ≤ h ∧
          h ≤ (ScanWindows.windowAt tip scanner.windowSize i).max) ∧
        (db.before others (i + 1)).store.contains h = false) ∧
      (∀ h ∈ pushed, scanner.Covers tip h) ∧
      ∀ h, scanner.Covers tip h → (db.before others windows).store.contains h = false →
        h ∈ pushed) ∧
    (∀ (found : Nat → List Nat) n e, n < windows → (∀ i < n, answer i = .ok (found i)) →
      answer n = .error e →
      let pushed := (List.range n).flatMap found
      scanner.passAmid others db q tip =
        (.error e, db.before others (n + 1), q.pushAll pushed) ∧
      (scanner.passAmid others db q tip).2.2.toList.Perm (pushed ++ q.toList)) ∧
    (scanner.passAmid (fun _ => ⟨[], refusals⟩) db q tip =
      ((scanner.pass db q tip).1, db, (scanner.pass db q tip).2)) ∧
    ∀ (db : Database) window, db.refusals.lookup .missingHeights = none →
      let missing := ((List.range' window.min (window.max + 1 - window.min)).filter
        fun h => !db.store.contains h).reverse
      let highest := missing.take scanner.windowSize
      scanner.scanWindow db q window = (.ok highest, q.pushAll highest) ∧
      (scanner.scanWindow db q window).2.toList.Perm (highest ++ q.toList) := by
  intro db windows answer
  have c : db.store.tables.Consistent := Store.consistent_run Tables.consistent_empty earlier
  refine ⟨fun found answered => ⟨passAmid_of_answered answered, ?_, pushed_falls answered,
    fun i lt h => mem_of_answerAmid lt (answered i lt), ?_, ?_⟩,
    fun found n e lt answered refused => ⟨passAmid_of_refused lt answered refused, ?_⟩,
    scanAllAmid_idle scanner db q .none (scanner.windows tip),
    fun db window answers => ⟨scanWindow_of_answers answers q window, ?_⟩⟩
  · rw [passAmid_of_answered answered]
    exact q.pushAll_perm _
  · intro h pushed
    obtain ⟨i, hi, hmem⟩ := List.mem_flatMap.mp pushed
    have lt := List.mem_range.mp hi
    obtain ⟨⟨low, high⟩, -⟩ := (mem_of_answerAmid lt (answered i lt)).mp hmem
    obtain ⟨-, bottom, top⟩ := ScanWindows.windowAt_width lt
    exact ⟨Nat.le_trans bottom low, Nat.le_trans high top⟩
  · intro h ⟨low, high⟩ absent
    obtain ⟨i, lt, inside⟩ := ScanWindows.exists_windowAt low high
    -- What is stored stays, so that the height was missing when its window was read.
    have before : (db.before others (i + 1)).store.contains h = false := by
      rw [← Bool.not_eq_true]
      intro stored
      rw [Database.contains_before_of_le c lt stored] at absent
      contradiction
    exact List.mem_flatMap.mpr
      ⟨i, List.mem_range.mpr lt, (mem_of_answerAmid lt (answered i lt)).mpr ⟨inside, before⟩⟩
  · rw [passAmid_of_refused lt answered refused]
    exact q.pushAll_perm _
  · rw [scanWindow_of_answers answers q window]
    exact q.pushAll_perm _

/-- Nothing happens before the first window, two blocks are stored before the second one, and
before the third one some queries may be refused. -/
def twoStoredMeanwhile (refusals : List (Query × String)) : Nat → Meanwhile
  | 0 => ⟨[], []⟩
  | 1 => ⟨[.insert (.empty 1 7), .insert (.empty 1 3)], []⟩
  | _ => ⟨[], refusals⟩

/-- The height 7 is stored after its window has been read, and 3 before. -/
theorem finds_gaps_amid_inserts :
    let db : Database := ⟨(Store.empty .lenient).run [.insert (.empty 1 4)], []⟩
    let scanner : GapScanner := ⟨3, 10⟩
    let refused := twoStoredMeanwhile [(.missingHeights, "busy")]
    scanner.passAmid (twoStoredMeanwhile []) db .empty 8 =
      (.ok ⟨3, 7⟩, db.before (twoStoredMeanwhile []) 3,
        Queue.empty.pushAll [8, 7, 6, 5, 2, 1, 0]) ∧
    (db.before (twoStoredMeanwhile []) 3).store.contains 7 = true ∧
    scanner.passAmid refused db .empty 8 =
      (.error (.storage "busy"), db.before refused 3, Queue.empty.pushAll [8, 7, 6, 5]) ∧
    scanner.scanWindow db .empty ⟨2, 8⟩ = (.ok [8, 7, 6], Queue.empty.pushAll [8, 7, 6]) := by
  intro db scanner refused
  let found (i : Nat) : List Nat := [[8, 7, 6], [5], [2, 1, 0]].getD i []
  obtain ⟨all, -, -, single⟩ := finds_gaps .lenient [.insert (.empty 1 4)] [] scanner
    (twoStoredMeanwhile []) .empty 8
  obtain ⟨-, some, -⟩ := finds_gaps .lenient [.insert (.empty 1 4)] [] scanner refused .empty 8
  have three : ScanWindows.windowCount 8 scanner.windowSize scanner.maxWindows = 3 := by decide
  have answered : ∀ i < 3, scanner.answerAmid (twoStoredMeanwhile []) db 8 i = .ok (found i) := by
    decide +kernel
  have answeredFirst : ∀ i < 2, scanner.answerAmid refused db 8 i = .ok (found i) := by
    decide +kernel
  rw [three] at all some
  exact ⟨(all found answered).1, by decide +kernel,
    (some found 2 _ (by decide) answeredFirst rfl).1, (single db ⟨2, 8⟩ rfl).1⟩

end GapScanner

end BlockIndexer
