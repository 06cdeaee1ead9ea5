import BlockIndexer.Proofs.Gap.Window
import BlockIndexer.Proofs.Pipeline.Trace
import Mathlib.Data.List.Nodup

/-! The heights that go through the queue of a pipeline, in runs whose steps come in any order. The
follower and the scanner put heights in, a consumer takes the highest one out, and between them
blocks are inserted into the store, by the consumer or by anyone else. A ledger keeps what was put
in and taken out. The two shares never meet, since the follower goes up from the tip where the
scanner goes down, and windows follow each other without overlap. -/

namespace BlockIndexer

/-- A window that was scanned, with the store as it was then. -/
structure Scan where
  window : Window
  store : Store

/-- The heights of the window that were not stored. -/
def Scan.missing (scan : Scan) : List Nat :=
  (List.range' scan.window.min (scan.window.max + 1 - scan.window.min)).filter
    fun h => !scan.store.contains h

theorem Scan.mem_missing {scan : Scan} {h : Nat} : h ∈ scan.missing ↔
    (scan.window.min ≤ h ∧ h ≤ scan.window.max) ∧ scan.store.contains h = false := by
  rw [Scan.missing, List.mem_filter, List.mem_range'_1, Bool.not_eq_true']
  refine and_congr_left fun _ => ?_
  omega

/-- A height that a consumer took, with the queue that it took it from. -/
structure Taken where
  height : Nat
  queue : Queue

/-- A pipeline with what went through its queue so far. -/
structure Ledger where
  pipeline : Pipeline
  /-- The heights that the follower and the scanner say they have put into the queue. -/
  enqueued : List Nat
  scans : List Scan
  taken : List Taken

namespace Ledger

inductive Action where
  | poll (current : Nat)
  | scan
  | take
  | insert (b : Block)
  | plantFailure (height position : Nat)
  | refuse (query : Query) (reason : Option String)

namespace Action

/-- The steps of a run that inserts blocks of one kind. -/
def Own (blocks : Block → Prop) : Action → Prop
  | .poll _ | .scan | .take => True
  | .insert b => blocks b
  | .plantFailure _ _ | .refuse _ _ => False

/-- The tip that a step was told. -/
def tips : Action → List Nat
  | .poll current => [current]
  | .scan | .take | .insert _ | .plantFailure _ _ | .refuse _ _ => []

end Action

def start (db : Database) (scanner : GapScanner) (tip : Nat) : Ledger :=
  ⟨.start db scanner tip, [], [], []⟩

/-- The heights that were taken out of the queue, the first one first. -/
def heights (l : Ledger) : List Nat := l.taken.map (·.height)

def setDatabase (l : Ledger) (db : Database) : Ledger :=
  { l with pipeline := { l.pipeline with db } }

/-- The ledger after a step, unless the step fails or there is nothing to do. -/
def act? (l : Ledger) : Action → Option Ledger
  | .poll current =>
    match l.pipeline.follower.poll l.pipeline.queue (.ok current) with
    | (.error _, _, _) => none
    | (.ok heights, follower, queue) => some { l with
        pipeline := { l.pipeline with follower, queue }
        enqueued := l.enqueued ++ heights }
  | .scan =>
    l.pipeline.windows.next?.bind fun (window, windows) =>
      match l.pipeline.scanner.scanWindow l.pipeline.db l.pipeline.queue window with
      | (.error _, _) => none
      | (.ok heights, queue) => some { l with
          pipeline := { l.pipeline with windows, queue }
          enqueued := l.enqueued ++ heights
          scans := l.scans ++ [⟨window, l.pipeline.db.store⟩] }
  | .take =>
    l.pipeline.take.map fun (height, pipeline) =>
      { l with pipeline, taken := l.taken ++ [⟨height, l.pipeline.queue⟩] }
  | .insert b => some (l.setDatabase (l.pipeline.db.insert b).2)
  | .plantFailure height position =>
    let db := l.pipeline.db
    some (l.setDatabase { db with store := db.store.plantFailure height position })
  | .refuse query reason => some (l.setDatabase (l.pipeline.db.refuse query reason))

/-- What a run that starts at a tip comes to by steps in any order and number. -/
inductive Reachable (db : Database) (scanner : GapScanner) (tip : Nat) : Ledger → Prop where
  | start : Reachable db scanner tip (start db scanner tip)
  | next {l l' : Ledger} {action : Action} : Reachable db scanner tip l →
      l.act? action = some l' → Reachable db scanner tip l'

def acts? (l : Ledger) (actions : List Action) : Option Ledger := actions.foldlM act? l

/-- What a run that inserts such blocks comes to when its polls, which did not fail, were told these
tips. -/
abbrev Polls (origin : Ledger) (blocks : Block → Prop) : List Nat → Ledger → Prop :=
  Leads act? (Action.Own blocks) Action.tips origin

variable {l l' : Ledger} {db : Database} {scanner : GapScanner} {tip : Nat}

theorem Polls.reachable {blocks : Block → Prop} {tips : List Nat}
    (polls : (start db scanner tip).Polls blocks tips l) : Reachable db scanner tip l := by
  induction polls with
  | start => exact .start
  | next _ _ step reached => exact reached.next step

theorem Reachable.acts {actions : List Action} (reached : Reachable db scanner tip l)
    (h : l.acts? actions = some l') : Reachable db scanner tip l' :=
  foldlM_keeps (fun _ _ _ _ reached step => reached.next step) reached h

/-! ### What a step does -/

theorem act?_poll {current : Nat} (h : l.act? (.poll current) = some l') :
    l.pipeline.follower.watermark ≤ current ∧
      let heights := heightsAbove l.pipeline.follower.watermark current
      l' = { l with
        pipeline := { l.pipeline with
          follower := ⟨current⟩
          queue := l.pipeline.queue.pushAll heights }
        enqueued := l.enqueued ++ heights } := by
  simp only [act?, Follower.poll] at h
  by_cases below : current < l.pipeline.follower.watermark
  · simp only [if_pos below] at h
    contradiction
  · simp only [if_neg below, Option.some.injEq] at h
    exact ⟨Nat.not_lt.mp below, h.symm⟩

theorem act?_scan (h : l.act? .scan = some l') :
    ∃ window windows, l.pipeline.windows.next? = some (window, windows) ∧
      let heights := l.pipeline.db.store.missingHeights window.min window.max
        l.pipeline.scanner.windowSize
      l' = { l with
        pipeline := { l.pipeline with windows, queue := l.pipeline.queue.pushAll heights }
        enqueued := l.enqueued ++ heights
        scans := l.scans ++ [⟨window, l.pipeline.db.store⟩] } := by
  simp only [act?, Option.bind_eq_some_iff] at h
  obtain ⟨⟨window, windows⟩, next, h⟩ := h
  simp only [GapScanner.scanWindow, Database.missingHeights, Database.ask] at h
  cases hr : l.pipeline.db.refusals.lookup .missingHeights with
  | some reason => simp only [hr] at h; contradiction
  | none =>
    simp only [hr, Option.some.injEq] at h
    exact ⟨window, windows, next, h.symm⟩

theorem act?_take : l.act? .take = some l' ↔
    ∃ height queue, l.pipeline.queue.toList = height :: queue.toList ∧
      l' = { l with
        pipeline := { l.pipeline with queue }
        taken := l.taken ++ [⟨height, l.pipeline.queue⟩] } := by
  simp only [act?, Pipeline.take, Option.map_map, Option.map_eq_some_iff, Function.comp_def,
    Prod.exists, Queue.pop?_eq_some_iff, eq_comm (b := l')]

/-! ### The balance -/

/-- What was put into the queue is what the follower passed and the scanner missed, and it is what
was taken out and what is left. -/
structure Balanced (tip : Nat) (scanner : GapScanner) (l : Ledger) : Prop where
  scanner_eq : l.pipeline.scanner = scanner
  walked : ScanWindows.Walked tip scanner.windowSize scanner.maxWindows (l.scans.map (·.window))
    l.pipeline.windows
  windows : l.scans.map (·.window) =
    (List.range l.scans.length).map (ScanWindows.windowAt tip scanner.windowSize)
  tip_le : tip ≤ l.pipeline.follower.watermark
  produced : l.enqueued.Perm
    (heightsAbove tip l.pipeline.follower.watermark ++ l.scans.flatMap Scan.missing)
  consumed : l.enqueued.Perm (l.heights ++ l.pipeline.queue.toList)
  highest : ∀ t ∈ l.taken, t.height ∈ t.queue.toList ∧ ∀ h ∈ t.queue.toList, h ≤ t.height

theorem balanced_start (db : Database) (scanner : GapScanner) (tip : Nat) :
    Balanced tip scanner (start db scanner tip) where
  scanner_eq := rfl
  walked := ScanWindows.walked_below tip scanner.windowSize scanner.maxWindows
  windows := rfl
  tip_le := Nat.le_refl tip
  produced := by simp [start, Pipeline.start, heightsAbove]
  consumed := .refl _
  highest _ ht := absurd ht List.not_mem_nil

namespace Balanced

theorem consumed_push (balanced : Balanced tip scanner l) (heights : List Nat) :
    (l.enqueued ++ heights).Perm (l.heights ++ (l.pipeline.queue.pushAll heights).toList) := by
  have pushed := (Queue.pushAll_perm l.pipeline.queue heights).trans List.perm_append_comm
  have all := (balanced.consumed.append_right heights).trans
    (.of_eq (List.append_assoc ..))
  exact all.trans (pushed.symm.append_left l.heights)

theorem poll (balanced : Balanced tip scanner l) {current : Nat}
    (step : l.act? (.poll current) = some l') : Balanced tip scanner l' := by
  obtain ⟨hle, rfl⟩ := act?_poll step
  have tip_le := balanced.tip_le
  -- The new heights go on where the follower's share ended, before the scanner's.
  have produced : (l.enqueued ++ heightsAbove l.pipeline.follower.watermark current).Perm
      (heightsAbove tip current ++ l.scans.flatMap Scan.missing) := by
    rw [← heightsAbove_append tip_le hle, List.append_assoc]
    exact (balanced.produced.append_right _).trans
      ((List.append_assoc ..).symm ▸ List.perm_append_comm.append_left _)
  exact { balanced with
    tip_le := Nat.le_trans tip_le hle
    produced := produced
    consumed := balanced.consumed_push _ }

theorem scan (balanced : Balanced tip scanner l) (step : l.act? .scan = some l') :
    Balanced tip scanner l' := by
  obtain ⟨window, windows, next, rfl⟩ := act?_scan step
  have below := balanced.walked.eq_windowAt next
  rw [List.length_map] at below
  have wide : window.max + 1 - window.min ≤ l.pipeline.scanner.windowSize := by
    obtain ⟨-, -, -, hmax, -⟩ := balanced.walked.window_eq next
    rw [balanced.scanner_eq]
    omega
  -- The limit of the query is the width of a window, so that nothing missing is left out.
  have missing : (l.pipeline.db.store.missingHeights window.min window.max
      l.pipeline.scanner.windowSize).Perm (Scan.missing ⟨window, l.pipeline.db.store⟩) := by
    rw [Store.missingHeights_eq_filter wide]
    exact List.reverse_perm _
  refine { balanced with
    walked := ?_
    windows := ?_
    produced := ?_
    consumed := balanced.consumed_push _ }
  · rw [List.map_append]
    exact balanced.walked.next next
  · rw [List.map_append, balanced.windows, List.length_append, List.length_singleton,
      List.range_succ, List.map_append, List.map_singleton, List.map_singleton, below]
  · rw [List.flatMap_append, List.flatMap_singleton, ← List.append_assoc]
    exact balanced.produced.append missing

theorem take (balanced : Balanced tip scanner l) (step : l.act? .take = some l') :
    Balanced tip scanner l' := by
  obtain ⟨height, queue, queued, rfl⟩ := act?_take.mp step
  refine { balanced with
    consumed := ?_
    highest := fun t ht => ?_ }
  · have consumed := balanced.consumed
    rw [queued] at consumed
    rw [heights, List.map_append, List.append_assoc]
    exact consumed
  · rcases List.mem_append.mp ht with old | new
    · exact balanced.highest t old
    · cases List.mem_singleton.mp new
      exact ⟨queued ▸ List.mem_cons_self, fun h => Queue.le_head queued⟩

theorem setDatabase (balanced : Balanced tip scanner l) (db : Database) :
    Balanced tip scanner (l.setDatabase db) :=
  { balanced with }

theorem act (balanced : Balanced tip scanner l) {action : Action}
    (step : l.act? action = some l') : Balanced tip scanner l' := by
  cases action with
  | poll current => exact balanced.poll step
  | scan => exact balanced.scan step
  | take => exact balanced.take step
  | insert b =>
    obtain rfl := Option.some.inj step
    exact balanced.setDatabase _
  | plantFailure height position =>
    obtain rfl := Option.some.inj step
    exact balanced.setDatabase _
  | refuse query reason =>
    obtain rfl := Option.some.inj step
    exact balanced.setDatabase _

end Balanced

theorem Reachable.balanced (reached : Reachable db scanner tip l) : Balanced tip scanner l := by
  induction reached with
  | start => exact balanced_start db scanner tip
  | next _ step ih => exact ih.act step

/-! ### The shares -/

namespace Balanced

theorem windows_fall (balanced : Balanced tip scanner l) :
    l.scans.Pairwise (·.window.min > ·.window.max) ∧ ∀ scan ∈ l.scans, scan.window.max ≤ tip := by
  constructor
  · have walked := balanced.walked
    cases Nat.eq_zero_or_pos scanner.windowSize with
    | inl zero =>
      -- A walk with windows of no width yields none.
      rw [List.map_eq_nil_iff.mp (walked.eq_nil zero)]
      exact .nil
    | inr positive =>
      have fits := walked.fits
      rw [List.length_map] at fits
      have fall := ScanWindows.windowAt_falls positive fits
      rw [← balanced.windows] at fall
      exact List.pairwise_map.mp fall
  · intro scan hscan
    have mem : scan.window ∈ l.scans.map (·.window) := List.mem_map_of_mem hscan
    rw [balanced.windows] at mem
    obtain ⟨i, -, eq⟩ := List.mem_map.mp mem
    rw [← eq]
    exact Nat.sub_le ..

theorem scanned_nodup (balanced : Balanced tip scanner l) :
    (l.scans.flatMap Scan.missing).Nodup := by
  refine List.nodup_flatMap.mpr ⟨fun scan _ => (List.nodup_range' ..).filter _, ?_⟩
  refine balanced.windows_fall.1.imp fun {scan later} below h hscan hlater => ?_
  have low := (Scan.mem_missing.mp hscan).1.1
  have high := (Scan.mem_missing.mp hlater).1.2
  omega

/-- The follower's heights lie above the tip, and the scanner's do not. -/
theorem shares_disjoint (balanced : Balanced tip scanner l) :
    (heightsAbove tip l.pipeline.follower.watermark).Disjoint (l.scans.flatMap Scan.missing) := by
  intro h followed scanned
  have low := (mem_heightsAbove.mp followed).1
  obtain ⟨scan, hscan, missed⟩ := List.mem_flatMap.mp scanned
  have high := (Scan.mem_missing.mp missed).1.2
  have below := balanced.windows_fall.2 scan hscan
  omega

theorem enqueued_nodup (balanced : Balanced tip scanner l) : l.enqueued.Nodup :=
  balanced.produced.nodup_iff.mpr
    (List.Nodup.append (List.nodup_range' ..) balanced.scanned_nodup balanced.shares_disjoint)

theorem heights_nodup (balanced : Balanced tip scanner l) : l.heights.Nodup :=
  (List.nodup_append.mp (balanced.consumed.nodup_iff.mp balanced.enqueued_nodup)).1

end Balanced

end Ledger

end BlockIndexer
