import BlockIndexer.Proofs.Gap.Window
import BlockIndexer.Proofs.Pipeline.Timeline

/-! What a run covers. The heights that the follower has passed and the heights of the scanned
windows are accounted for: each is stored, or waits in the queue, or was reported as dropped. No
step takes a height out of account, whichever comes next, and the follower and the scanner start
from one tip, so that nothing is left out between them. -/

namespace BlockIndexer.Trace

variable {t t' : Trace} {db : Database} {scanner : GapScanner} {tip h : Nat}

/-- A height is stored, or waits, or was reported as dropped. -/
def Accounts (t : Trace) (h : Nat) : Prop :=
  t.Stored h ∨ h ∈ t.pipeline.queue.toList ∨ ∃ cause, .dropped h cause ∈ t.events

/-- A height stays accounted for while the store and the events grow and the queue is kept. -/
theorem Accounts.mono (accounted : t.Accounts h) (stored : t.Stored h → t'.Stored h)
    (queued : ∀ h ∈ t.pipeline.queue.toList, h ∈ t'.pipeline.queue.toList)
    (events : t.events = t'.events) : t'.Accounts h := by
  rcases accounted with hs | hq | ⟨cause, he⟩
  · exact .inl (stored hs)
  · exact .inr (.inl (queued h hq))
  · exact .inr (.inr ⟨cause, events ▸ he⟩)

theorem accounts_dispatch {source : Source} (faithful : source.Faithful)
    (accounted : t.Accounts h) (step : t.move? (.dispatch source) = some t') :
    t'.Accounts h := by
  obtain ⟨height, queue, hqueue, rfl⟩ := move?_dispatch step
  rcases accounted with hs | hq | ⟨cause, he⟩
  · exact .inl (Database.contains_dispatch_of_contains hs source height)
  · rw [hqueue] at hq
    rcases List.mem_cons.mp hq with rfl | hq
    · -- The height that leaves the queue is stored now, or the new event reports it.
      rcases Database.contains_or_dropped faithful t.pipeline.db h with hs | ⟨cause, he⟩
      · exact .inl hs
      · exact .inr (.inr ⟨cause, List.mem_append_right _ (List.mem_singleton.mpr he.symm)⟩)
    · exact .inr (.inl hq)
  · exact .inr (.inr ⟨cause, List.mem_append_left _ he⟩)

theorem accounts_move {move : Move} (faithful : move.Faithful) (accounted : t.Accounts h)
    (step : t.move? move = some t') : t'.Accounts h := by
  cases move with
  | poll current =>
    obtain ⟨-, rfl⟩ := move?_poll step
    exact accounted.mono id (fun _ hx => Queue.mem_pushAll.mpr (.inl hx)) rfl
  | scan =>
    obtain ⟨window, windows, -, rfl⟩ := move?_scan step
    exact accounted.mono id (fun _ hx => Queue.mem_pushAll.mpr (.inl hx)) rfl
  | dispatch source => exact accounts_dispatch faithful accounted step
  | plantFailure height position =>
    cases step
    exact accounted.mono id (fun _ hx => hx) rfl
  | refuse query reason =>
    cases step
    exact accounted.mono id (fun _ hx => hx) rfl

/-- What holds of a run that started at a tip. -/
structure Covered (tip : Nat) (scanner : GapScanner) (t : Trace) : Prop where
  scanner_eq : t.pipeline.scanner = scanner
  tip_le : tip ≤ t.pipeline.follower.watermark
  walked : ScanWindows.Walked tip scanner.windowSize scanner.maxWindows t.scanned
    t.pipeline.windows
  above : ∀ h, tip < h → h ≤ t.pipeline.follower.watermark → t.Accounts h
  windows : ∀ w ∈ t.scanned, ∀ h, w.min ≤ h → h ≤ w.max → t.Accounts h

theorem covered_start (db : Database) (scanner : GapScanner) (tip : Nat) :
    Covered tip scanner (start db scanner tip) where
  scanner_eq := rfl
  tip_le := Nat.le_refl tip
  walked := ScanWindows.walked_below tip scanner.windowSize scanner.maxWindows
  above _ hlow hhigh := absurd hhigh (Nat.not_le.mpr hlow)
  windows _ hw := absurd hw List.not_mem_nil

namespace Covered

/-- A step that leaves the follower and the scanner alone keeps what is covered. -/
theorem frame (covered : Covered tip scanner t) {move : Move} (faithful : move.Faithful)
    (step : t.move? move = some t') (scannerSame : t'.pipeline.scanner = t.pipeline.scanner)
    (followerSame : t'.pipeline.follower = t.pipeline.follower)
    (windowsSame : t'.pipeline.windows = t.pipeline.windows)
    (scannedSame : t'.scanned = t.scanned) : Covered tip scanner t' where
  scanner_eq := scannerSame ▸ covered.scanner_eq
  tip_le := followerSame ▸ covered.tip_le
  walked := by
    rw [windowsSame, scannedSame]
    exact covered.walked
  above h hlow hhigh := accounts_move faithful (covered.above h hlow (followerSame ▸ hhigh)) step
  windows w hw h hlow hhigh :=
    accounts_move faithful (covered.windows w (scannedSame ▸ hw) h hlow hhigh) step

theorem poll (covered : Covered tip scanner t) {current : Nat}
    (step : t.move? (.poll current) = some t') : Covered tip scanner t' := by
  have kept {h : Nat} (accounted : t.Accounts h) : t'.Accounts h :=
    accounts_move (show (Move.poll current).Faithful from trivial) accounted step
  obtain ⟨hle, eq⟩ := move?_poll step
  refine ⟨by rw [eq]; exact covered.scanner_eq, by rw [eq]; exact Nat.le_trans covered.tip_le hle,
    by rw [eq]; exact covered.walked, ?_, ?_⟩
  · intro h hlow hhigh
    by_cases old : h ≤ t.pipeline.follower.watermark
    · exact kept (covered.above h hlow old)
    · rw [eq] at hhigh ⊢
      exact .inr (.inl (Queue.mem_pushAll.mpr
        (.inr (mem_heightsAbove.mpr ⟨Nat.not_le.mp old, hhigh⟩))))
  · intro w hw h hlow hhigh
    rw [eq] at hw
    exact kept (covered.windows w hw h hlow hhigh)

/-- The heights of a window are as many as the scan asks for, so all that are missing are queued. -/
theorem scan (covered : Covered tip scanner t) (step : t.move? .scan = some t') :
    Covered tip scanner t' := by
  have kept {h : Nat} (accounted : t.Accounts h) : t'.Accounts h :=
    accounts_move (show Move.scan.Faithful from trivial) accounted step
  obtain ⟨window, windows, next, eq⟩ := move?_scan step
  have wide : window.max + 1 - window.min ≤ t.pipeline.scanner.windowSize := by
    obtain ⟨-, -, -, hmax, -⟩ := covered.walked.window_eq next
    rw [covered.scanner_eq]
    omega
  refine ⟨by rw [eq]; exact covered.scanner_eq, by rw [eq]; exact covered.tip_le,
    by rw [eq]; exact covered.walked.next next, ?_, ?_⟩
  · intro h hlow hhigh
    rw [eq] at hhigh
    exact kept (covered.above h hlow hhigh)
  · intro w hw h hlow hhigh
    rw [eq] at hw
    rcases List.mem_append.mp hw with hw | hw
    · exact kept (covered.windows w hw h hlow hhigh)
    · cases List.mem_singleton.mp hw
      cases stored : t.pipeline.db.store.contains h with
      | true => exact kept (.inl stored)
      | false =>
        rw [eq]
        exact .inr (.inl (Queue.mem_pushAll.mpr
          (.inr ((Store.mem_missingHeights wide).mpr ⟨hlow, hhigh, stored⟩))))

theorem move (covered : Covered tip scanner t) {move : Move} (faithful : move.Faithful)
    (step : t.move? move = some t') : Covered tip scanner t' := by
  cases move with
  | poll current => exact covered.poll step
  | scan => exact covered.scan step
  | dispatch source =>
    obtain ⟨height, queue, -, eq⟩ := move?_dispatch step
    exact covered.frame faithful step (eq ▸ rfl) (eq ▸ rfl) (eq ▸ rfl) (eq ▸ rfl)
  | plantFailure height position =>
    obtain rfl := Option.some.inj step
    exact covered.frame faithful step rfl rfl rfl rfl
  | refuse query reason =>
    obtain rfl := Option.some.inj step
    exact covered.frame faithful step rfl rfl rfl rfl

end Covered

theorem Reachable.covered (reached : Reachable db scanner tip t) : Covered tip scanner t := by
  induction reached with
  | start => exact covered_start db scanner tip
  | next _ faithful step ih => exact ih.move faithful step

/-- When a pass is over, the scanned windows and the follower's heights leave nothing out. -/
theorem Covered.accounts (covered : Covered tip scanner t)
    (all : t.scanned.length =
      ScanWindows.windowCount tip scanner.windowSize scanner.maxWindows)
    (low : tip + 1 - t.scanned.length * scanner.windowSize ≤ h)
    (high : h ≤ t.pipeline.follower.watermark) : t.Accounts h := by
  by_cases above : tip < h
  · exact covered.above h above high
  · obtain ⟨w, hw, hmin, hmax⟩ :=
      covered.walked.covers h (by rw [all] at low ⊢; exact low) (Nat.not_lt.mp above)
    exact covered.windows w hw h hmin hmax

/-- With a queue that is empty, what is accounted for and was not dropped is stored. -/
theorem Accounts.stored (accounted : t.Accounts h) (empty : t.pipeline.queue.isEmpty = true)
    (kept : ∀ cause, .dropped h cause ∉ t.events) : t.Stored h := by
  rcases accounted with hs | hq | ⟨cause, dropped⟩
  · exact hs
  · rw [Queue.isEmpty_iff.mp empty] at hq
    exact absurd hq List.not_mem_nil
  · exact absurd dropped (kept cause)

/-- The first window reaches up to the tip, where the follower starts. -/
theorem Covered.meets_tip (covered : Covered tip scanner t) (one : 1 ≤ t.scanned.length) :
    tip + 1 - t.scanned.length * scanner.windowSize ≤ tip := by
  have positive : 0 < scanner.windowSize := by
    refine Nat.pos_of_ne_zero fun hzero => ?_
    rw [covered.walked.eq_nil hzero, List.length_nil] at one
    omega
  have : 0 < t.scanned.length * scanner.windowSize := Nat.mul_pos one positive
  omega

/-- The watermark is the tip that was told last. -/
theorem Polls.watermark {source : Source} {tips : List Nat}
    (polls : (start db scanner tip).Polls source tips t) :
    t.pipeline.follower.watermark = tips.getLastD tip := by
  induction polls with
  | start => rfl
  | @next tips t t' move _ own step ih =>
    cases move with
    | poll current =>
      obtain ⟨-, rfl⟩ := move?_poll step
      rw [Move.tips, List.getLastD_concat]
    | scan =>
      obtain ⟨window, windows, -, rfl⟩ := move?_scan step
      rw [Move.tips, List.append_nil]
      exact ih
    | dispatch asked =>
      obtain ⟨height, queue, -, rfl⟩ := move?_dispatch step
      rw [Move.tips, List.append_nil]
      exact ih
    | plantFailure => contradiction
    | refuse => contradiction

/-- In a run that started at a tip, every height from there to the watermark and every height of a
scanned window is accounted for. A pass is over when as many windows have been scanned as fit; the
store then holds, once the queue is empty, every height from the lower end of the last window to
the watermark that was not dropped, the tip included if there was a window at all. A polling run on
a clock does not start, or it is such a run: it started at the tip that was reported first, and its
watermark is the tip that was reported last, as far as its follower got. -/
theorem coverage (db : Database) (scanner : GapScanner) :
    (∀ tip t, Reachable db scanner tip t →
      let size := scanner.windowSize
      let count := ScanWindows.windowCount tip size scanner.maxWindows
      let watermark := t.pipeline.follower.watermark
      (∀ h, tip < h → h ≤ watermark → t.Accounts h) ∧
      (∀ w ∈ t.scanned, ∀ h, w.min ≤ h → h ≤ w.max → t.Accounts h) ∧
      (t.scanned.length ≤ count ∧ (t.pipeline.scan = .ends .done ↔ t.scanned.length = count)) ∧
      (t.scanned.length = count → t.pipeline.queue.isEmpty = true →
        (1 ≤ count → tip + 1 - count * size ≤ tip ∧ tip ≤ watermark) ∧
        ∀ h, tip + 1 - count * size ≤ h → h ≤ watermark →
          (∀ cause, .dropped h cause ∉ t.events) → t.Stored h)) ∧
    ∀ source receiver intervals answers, source.Faithful →
      let ended := Pipeline.runPolling source receiver db scanner intervals answers
      (∃ e, Pipeline.Unstarted db answers e ∧ ended = .notStarted db e) ∨
      ∃ tip tips t, (start db scanner tip).Polls source tips t ∧ Reachable db scanner tip t ∧
        ended.EndsAt answers tip tips t.pipeline ((receiver.offer ended.events).2 = none) ∧
        ended.events = t.events ∧ t.pipeline.follower.watermark = tips.getLastD tip := by
  refine ⟨fun tip t reached => ?_, fun source receiver intervals answers faithful => ?_⟩
  · intro size count watermark
    have covered := reached.covered
    have fits : t.scanned.length ≤ count := covered.walked.length_le_windowCount
    refine ⟨covered.above, covered.windows, ⟨fits, ?_⟩, fun all empty => ⟨fun one => ?_, ?_⟩⟩
    · rw [scan_eq_done_iff]
      exact covered.walked.next?_eq_none_iff
    · rw [← all] at one ⊢
      exact ⟨covered.meets_tip one, covered.tip_le⟩
    · intro h low high kept
      exact (covered.accounts all (all ▸ low) high).stored empty kept
  · intro ended
    rcases Pipeline.runPolling_traced source receiver db scanner intervals answers with failed |
      ⟨tip, tips, t, polls, ends, events⟩
    · exact .inl failed
    · exact .inr ⟨tip, tips, t, polls, polls.reachable faithful, ends, events, polls.watermark⟩

/-- A source of empty blocks without one of a certain height. -/
def sparse (missing h : Nat) : Except Error Block :=
  if h = missing ∨ UInt64.size ≤ h then .error (.rpc "no block") else .ok (.empty 1 (.ofNat h))

theorem sparse_faithful (missing : Nat) : Source.Faithful (sparse missing) := by
  intro h b fetched
  unfold sparse at fetched
  split at fetched
  next => contradiction
  next present =>
    cases fetched
    exact UInt64.toNat_ofNat_of_lt' (Nat.not_le.mp fun large => present (.inr large))

/-- A run from the tip 5 with one window, which is as wide as to leave two heights below it. -/
def seamRun : Option Trace :=
  (start (.ofStore (.empty .lenient)) ⟨4, 10⟩ 5).moves?
    [.scan, .dispatch (sparse 5), .poll 6, .dispatch (sparse 5), .dispatch (sparse 5),
      .dispatch (sparse 5), .dispatch (sparse 5)]

theorem seamRun_coverage :
    let db := Database.ofStore (.empty .lenient)
    (∃ t, Reachable db ⟨4, 10⟩ 5 t ∧ ∀ h, 2 ≤ h → h ≤ 6 → h ≠ 5 → t.Stored h) ∧
    ∃ tips t, (start db ⟨4, 10⟩ 5).Polls (sparse 5) tips t ∧
      (Pipeline.runPolling (sparse 5) .staying db ⟨4, 10⟩ ⟨1, 1, 1⟩
        [.height 5, .height 6]).events = t.events := by
  intro db
  obtain ⟨covers, polling⟩ := coverage db ⟨4, 10⟩
  constructor
  · have ends : seamRun.any (fun t => t.scanned.length == 1 && t.pipeline.queue.isEmpty &&
        t.pipeline.follower.watermark == 6 &&
        t.events.all fun | .dropped h _ => h == 5 | _ => true) = true := by
      decide +kernel
    obtain ⟨t, run, ends⟩ := (Option.any_eq_true _ _).mp ends
    simp only [Bool.and_eq_true, beq_iff_eq] at ends
    obtain ⟨⟨⟨scanned, empty⟩, watermark⟩, events⟩ := ends
    have reached : Reachable db ⟨4, 10⟩ 5 t := by
      refine Reachable.moves .start (fun move hmove => ?_) run
      simp only [List.mem_cons, List.not_mem_nil, or_false] at hmove
      rcases hmove with rfl | rfl | rfl | rfl | rfl | rfl | rfl <;>
        first | trivial | exact sparse_faithful 5
    refine ⟨t, reached, fun h hlow hhigh other => ?_⟩
    refine ((covers 5 t reached).2.2.2 scanned empty).2 h hlow (watermark ▸ hhigh)
      fun cause dropped => ?_
    exact other (beq_iff_eq.mp (List.all_eq_true.mp events _ dropped))
  · rcases polling (sparse 5) .staying ⟨1, 1, 1⟩ [.height 5, .height 6] (sparse_faithful 5) with
      ⟨e, refused | ⟨-, failed⟩, -⟩ | ⟨tip, tips, t, polls, -, ends, events, -⟩
    · cases refused
    · cases failed
    · cases ends.first
      exact ⟨tips, t, polls, events⟩

end BlockIndexer.Trace
