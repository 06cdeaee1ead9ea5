import BlockIndexer.Proofs.Pipeline.Ledger
import BlockIndexer.Proofs.Pipeline.Timeline

/-! Work is neither lost nor done twice. Runs on a clock that dispatch heights or hand them out are
runs of a ledger, in which each height goes through the queue at most once and the highest one
first. So no height is dispatched twice or handed out twice. -/

namespace BlockIndexer

namespace Receiver

theorem offer_prefix (receiver : Receiver) (items : List α) :
    (receiver.offer items).1 <+: items := by
  induction items generalizing receiver with
  | nil => exact List.prefix_rfl
  | cons a as ih =>
    rw [offer]
    cases receiver.send? with
    | none => exact List.nil_prefix
    | some receiver => exact List.cons_prefix_cons.mpr ⟨rfl, ih receiver⟩

theorem offer_eq_of_some {receiver later : Receiver} {items : List α}
    (left : (receiver.offer items).2 = some later) : (receiver.offer items).1 = items := by
  have whole := offer_append left []
  rw [List.append_nil] at whole
  rw [whole]
  exact List.append_nil items

/-- An offer comes to the item that finds the receiver gone, and no further. -/
theorem offer_take_of_gone {receiver : Receiver} {items : List α}
    (gone : (receiver.offer items).2 = none) :
    receiver.offer (items.take ((receiver.offer items).1.length + 1)) = receiver.offer items := by
  induction items generalizing receiver with
  | nil => rfl
  | cons a as ih =>
    rw [offer] at gone ⊢
    cases sent : receiver.send? with
    | none => simp only [List.length_nil, List.take_succ_cons, offer, sent]
    | some later =>
      simp only [sent] at gone
      simp only [List.length_cons, List.take_succ_cons, offer, sent, ih gone]

end Receiver

/-- A pipeline is that of a ledger from which these heights were taken. -/
def Pipeline.Records (origin : Ledger) (blocks : Block → Prop) (taken tips : List Nat)
    (p : Pipeline) : Prop :=
  ∃ l, origin.Polls blocks tips l ∧ l.pipeline = p ∧ l.heights = taken

namespace Pipeline.Records

variable {origin : Ledger} {blocks : Block → Prop} {height : Nat} {p p' : Pipeline}
  {taken tips heights : List Nat}

theorem poll {tip : Nat} (records : p.Records origin blocks taken tips)
    (goesOn : p.poll (.height tip) = .goesOn p') :
    p'.Records origin blocks taken (tips ++ [tip]) := by
  obtain ⟨l, polls, rfl, rfl⟩ := records
  rw [poll_height] at goesOn
  split at goesOn
  next => cases goesOn
  next above =>
    cases goesOn
    have step : l.act? (.poll tip) = some { l with
        pipeline := { l.pipeline with
          follower := ⟨tip⟩
          queue := l.pipeline.queue.pushAll (heightsAbove l.pipeline.follower.watermark tip) }
        enqueued := l.enqueued ++ heightsAbove l.pipeline.follower.watermark tip } := by
      simp only [Ledger.act?, Follower.poll, if_neg above]
    exact ⟨_, polls.next (show (Ledger.Action.poll tip).Own blocks from trivial) step, rfl, rfl⟩

theorem scan (records : p.Records origin blocks taken tips) (goesOn : p.scan = .goesOn p') :
    p'.Records origin blocks taken tips := by
  obtain ⟨l, polls, rfl, rfl⟩ := records
  unfold Pipeline.scan at goesOn
  split at goesOn
  next => cases goesOn
  next window windows next =>
    split at goesOn
    next => cases goesOn
    next heights queue scanned =>
      simp only [Step.goesOn.injEq] at goesOn
      have step : l.act? .scan = some { l with
          pipeline := p'
          enqueued := l.enqueued ++ heights
          scans := l.scans ++ [⟨window, l.pipeline.db.store⟩] } := by
        simp only [Ledger.act?, next, Option.bind_some, scanned, goesOn]
      have polls := polls.next (show Ledger.Action.scan.Own blocks from trivial) step
      rw [Ledger.Action.tips, List.append_nil] at polls
      exact ⟨_, polls, rfl, rfl⟩

theorem take (records : p.Records origin blocks taken tips)
    (queued : p.queue.toList = height :: heights) :
    Records origin blocks (taken ++ [height]) tips { p with queue := p.queue.drop 1 } := by
  obtain ⟨l, polls, rfl, rfl⟩ := records
  have rest : l.pipeline.queue.toList = height :: (l.pipeline.queue.drop 1).toList := by
    rw [Queue.toList_drop, queued]
    rfl
  have polls := polls.next (show Ledger.Action.take.Own blocks from trivial)
    (Ledger.act?_take.mpr ⟨height, _, rest, rfl⟩)
  rw [Ledger.Action.tips, List.append_nil] at polls
  refine ⟨_, polls, rfl, ?_⟩
  rw [Ledger.heights, List.map_append]
  rfl

theorem drop (records : p.Records origin blocks taken tips) (n : Nat) :
    Records origin blocks (taken ++ p.queue.toList.take n) tips
      { p with queue := p.queue.drop n } := by
  induction n generalizing p taken with
  | zero =>
    rw [Queue.drop_zero, List.take_zero, List.append_nil]
    exact records
  | succ n ih =>
    cases queued : p.queue.toList with
    | nil =>
      have same : p.queue.drop (n + 1) = p.queue :=
        Queue.toList_inj.mp (by rw [Queue.toList_drop, queued, List.drop_nil])
      rw [same, List.take_nil, List.append_nil]
      exact records
    | cons height heights =>
      have rest := ih (records.take queued)
      simp only [Queue.drop_drop, Queue.toList_drop, queued, List.drop_succ_cons, List.drop_zero,
        List.append_assoc, List.singleton_append] at rest
      rw [List.take_succ_cons, Nat.add_comm]
      exact rest

/-- One dispatch is two steps of a ledger: the height is taken, and then the block that the source
gives for it is inserted. -/
theorem dispatch {source : Source} (records : p.Records origin blocks taken tips)
    (queued : p.queue.toList = height :: heights)
    (given : ∀ b, source height = .ok b → blocks b) :
    Records origin blocks (taken ++ [height]) tips
      { p with db := (p.db.dispatch source height).2, queue := p.queue.drop 1 } := by
  rcases p.db.dispatch_snd source height with same | ⟨b, fetched, inserted⟩
  · rw [same]
    exact records.take queued
  · rw [inserted]
    obtain ⟨l, polls, pipeline, heights⟩ := records.take queued
    have polls := polls.next (show (Ledger.Action.insert b).Own blocks from given b fetched) rfl
    rw [Ledger.Action.tips, List.append_nil] at polls
    refine ⟨_, polls, ?_, heights⟩
    simp only [Ledger.setDatabase, pipeline]

theorem produced (origin : Ledger) (blocks : Block → Prop) (taken : List Nat) :
    Timeline.Produced (Records origin blocks taken) where
  poll := Records.poll
  scan := Records.scan

end Pipeline.Records

/-- What a trace does to its queue is what a ledger does into which the blocks of its source are
inserted. -/
theorem Trace.Polls.records {db : Database} {scanner : GapScanner} {tip : Nat} {source : Source}
    {tips : List Nat} {t : Trace} (polls : (Trace.start db scanner tip).Polls source tips t) :
    ∃ taken, t.pipeline.Records (.start db scanner tip) (fun b => ∃ h, source h = .ok b) taken
      tips ∧ t.events.map DispatchEvent.height? = taken.map some := by
  induction polls with
  | start => exact ⟨[], ⟨_, .start, rfl, rfl⟩, rfl⟩
  | @next tips t t' move _ own step ih =>
    obtain ⟨taken, records, events⟩ := ih
    cases move with
    | poll current =>
      rw [move?] at step
      split at step
      next polled =>
        cases step
        exact ⟨taken, records.poll polled, events⟩
      next => cases step
    | scan =>
      rw [move?] at step
      rw [Move.tips, List.append_nil]
      split at step
      next scanned =>
        cases step
        exact ⟨taken, records.scan scanned, events⟩
      next => cases step
    | dispatch asked =>
      cases (show asked = source from own)
      obtain ⟨height, queue, queued, rfl⟩ := move?_dispatch step
      have dropped : queue = t.pipeline.queue.drop 1 :=
        Queue.toList_inj.mp (by rw [Queue.toList_drop, queued]; rfl)
      rw [dropped, Move.tips, List.append_nil]
      refine ⟨taken ++ [height], records.dispatch queued fun b fetched => ⟨height, fetched⟩, ?_⟩
      rw [List.map_append, List.map_append, events, List.map_singleton, List.map_singleton,
        Database.height?_dispatch]
    | plantFailure => contradiction
    | refuse => contradiction

namespace Timeline

variable {t : Timeline} {origin : Ledger} {receiver : Receiver} {answers : List TipAnswer}

/-- The heights that were taken were offered to the receiver. It took all of them but for one that
may have found it gone, which ends the run. -/
def HandsOut (origin : Ledger) (receiver : Receiver) (answers : List TipAnswer) (t : Timeline) :
    Prop :=
  ∃ lost,
    (∃ tips, t.Told (Pipeline.Records origin (fun _ => False) (t.heights ++ lost)) answers
      ((receiver.offer (t.heights ++ lost)).2 = none) tips) ∧
    (receiver.offer (t.heights ++ lost)).1 = t.heights ∧ lost.length ≤ 1 ∧
    (t.ending = none → lost = [] ∧ ∃ left, t.consumer = .handOut left ∧
      (receiver.offer t.heights).2 = some left)

namespace HandsOut

theorem ask (h : t.HandsOut origin receiver answers) (running : t.ending = none) :
    t.ask.HandsOut origin receiver answers := by
  obtain ⟨lost, ⟨tips, told⟩, handed, short, serves⟩ := h
  obtain ⟨-, heights, consumer, before⟩ := t.produces_ask
  rw [HandsOut, heights, consumer]
  exact ⟨lost, told.ask (Pipeline.Records.produced ..) running, handed, short,
    fun unended => serves (before unended)⟩

theorem scan (h : t.HandsOut origin receiver answers) (now : Nat) :
    (t.scan now).HandsOut origin receiver answers := by
  obtain ⟨lost, ⟨tips, told⟩, handed, short, serves⟩ := h
  obtain ⟨-, heights, consumer, before⟩ := t.produces_scan now
  rw [HandsOut, heights, consumer]
  exact ⟨lost, ⟨tips, told.scan (Pipeline.Records.produced ..) now⟩, handed, short,
    fun unended => serves (before unended)⟩

theorem wake (h : t.HandsOut origin receiver answers) (running : t.ending = none) :
    t.wake.HandsOut origin receiver answers := by
  obtain ⟨lost, ⟨tips, told⟩, -, -, serves⟩ := h
  obtain ⟨rfl, left, consumer, offered⟩ := serves running
  rw [List.append_nil] at told
  obtain ⟨rest, queued⟩ := left.offer_prefix t.pipeline.queue.toList
  unfold Timeline.wake Timeline.consume
  simp only [consumer]
  cases gone : (left.offer t.pipeline.queue.toList).2 with
  | none =>
    -- The height that found the receiver gone was taken from the queue like those before it.
    have taken : t.pipeline.queue.toList.take
        ((left.offer t.pipeline.queue.toList).1.length + 1) =
          (left.offer t.pipeline.queue.toList).1 ++ rest.take 1 :=
      (congrArg (List.take _) queued.symm).trans (List.take_length_add_append 1)
    have dropped := told.related.drop ((left.offer t.pipeline.queue.toList).1.length + 1)
    have all := Receiver.offer_append offered
      (t.pipeline.queue.toList.take ((left.offer t.pipeline.queue.toList).1.length + 1))
    rw [Receiver.offer_take_of_gone gone, gone] at all
    rw [taken, ← List.append_assoc] at dropped all
    have ended := ending_finish running (.consumer (.ok ()))
    refine ⟨rest.take 1, ⟨tips, told.consume running rfl dropped (.inr ⟨?_, ended⟩)⟩, ?_,
      List.length_take_le 1 rest, fun unended => ?_⟩
    · exact congrArg Prod.snd all
    · exact congrArg Prod.fst all
    · cases ended.symm.trans unended
  | some later =>
    have whole := Receiver.offer_eq_of_some gone
    have dropped := told.related.drop t.pipeline.queue.toList.length
    have all := Receiver.offer_append offered t.pipeline.queue.toList
    rw [gone, whole] at all
    rw [List.take_length] at dropped
    simp only [whole]
    refine ⟨[], ?_⟩
    rw [List.append_nil]
    exact ⟨⟨tips, told.consume running rfl dropped (.inl running)⟩, congrArg Prod.fst all,
      Nat.zero_le 1, fun _ => ⟨rfl, later, rfl, congrArg Prod.snd all⟩⟩

theorem run (h : t.HandsOut origin receiver answers) :
    t.run.HandsOut origin receiver answers :=
  run_induction (fun _ running h => h.wake running) (fun _ running h => h.ask running)
    (fun _ now h => h.scan now) h

end HandsOut

end Timeline

namespace Pipeline

/-- Whatever a run comes to, from one tip and by steps in any order, the heights that were put into
the queue are those that the follower passed and those that the scanner found missing when it
looked, each of them once. They are the heights that were taken out and those that wait, and each
that was taken was the highest in the queue by then. A run on a clock does not start, because the
store or the node refuses to say where, or it is such a run, from the tip that was reported first
and told the node's answers one after the other. If it dispatches, it inserts only blocks of its
source and reports on the heights that were taken. If it hands heights out, it inserts none, and it
has handed out the heights that were taken, but for one that may have found the receiver gone. -/
theorem work_conserved (db : Database) (scanner : GapScanner) :
    (∀ tip l, Ledger.Reachable db scanner tip l →
      let followed := heightsAbove tip l.pipeline.follower.watermark
      let scanned := l.scans.flatMap Scan.missing
      l.scans.map (·.window) =
        (List.range l.scans.length).map (ScanWindows.windowAt tip scanner.windowSize) ∧
      l.enqueued.Perm (followed ++ scanned) ∧ l.enqueued.Nodup ∧ followed.Disjoint scanned ∧
      l.enqueued.Perm (l.heights ++ l.pipeline.queue.toList) ∧ l.heights.Nodup ∧
      ∀ t ∈ l.taken, t.height ∈ t.queue.toList ∧ ∀ h ∈ t.queue.toList, h ≤ t.height) ∧
    (∀ source receiver intervals answers,
      let ended := runPolling source receiver db scanner intervals answers
      (∃ e, Unstarted db answers e ∧ ended = .notStarted db e) ∨
      ∃ tip tips l, Ledger.Reachable db scanner tip l ∧
        (Ledger.start db scanner tip).Polls (fun b => ∃ h, source h = .ok b) tips l ∧
        ended.EndsAt answers tip tips l.pipeline ((receiver.offer ended.events).2 = none) ∧
        ended.events.map DispatchEvent.height? = l.heights.map some) ∧
    ∀ receiver intervals answers,
      let ended := runHeights receiver db scanner intervals answers
      ended.heights.Nodup ∧
      ((∃ e, Unstarted db answers e ∧ ended = .notStarted db e) ∨
      ∃ tip tips l lost, Ledger.Reachable db scanner tip l ∧
        (Ledger.start db scanner tip).Polls (fun _ => False) tips l ∧
        ended.EndsAt answers tip tips l.pipeline ((receiver.offer l.heights).2 = none) ∧
        l.heights = ended.heights ++ lost ∧ lost.length ≤ 1 ∧
        (receiver.offer l.heights).1 = ended.heights) := by
  refine ⟨fun tip l reached => ?_, fun source receiver intervals answers => ?_,
    fun receiver intervals answers => ?_⟩
  · have balanced := reached.balanced
    exact ⟨balanced.windows, balanced.produced, balanced.enqueued_nodup, balanced.shares_disjoint,
      balanced.consumed, balanced.heights_nodup, balanced.highest⟩
  · intro ended
    rcases runPolling_traced source receiver db scanner intervals answers with failed |
      ⟨tip, tips, t, traced, ends, events⟩
    · exact .inl failed
    · obtain ⟨taken, ⟨l, polls, pipeline, rfl⟩, heights⟩ := traced.records
      rw [← events] at heights
      rw [← pipeline] at ends
      exact .inr ⟨tip, tips, l, polls.reachable, polls, ends, heights⟩
  · intro ended
    rcases runWith_cases (.handOut receiver) db scanner intervals answers with
      ⟨e, unstarted, failed⟩ | ⟨tip, first, -, eq⟩
    · have failed : ended = .notStarted db e := failed
      rw [failed]
      exact ⟨.nil, .inl ⟨e, unstarted, rfl⟩⟩
    · have started : (Timeline.start (start db scanner tip) intervals (TipAnswer.next answers).2
          (.handOut receiver) 0).HandsOut (.start db scanner tip) receiver
          (TipAnswer.next answers).2 :=
        ⟨[], ⟨[], ⟨_, .start, rfl, rfl⟩, List.nil_prefix, fun _ => rfl, nofun⟩, rfl,
          Nat.zero_le 1, fun _ => ⟨rfl, receiver, rfl, rfl⟩⟩
      obtain ⟨lost, ⟨tips, told⟩, handed, short, -⟩ := started.run
      obtain ⟨l, polls, pipeline, heights⟩ := told.related
      have ends := endsAt_ofTimeline first told
      have distinct := polls.reachable.balanced.heights_nodup
      rw [← pipeline, ← heights] at ends
      rw [← heights] at handed
      rw [heights] at distinct
      have eq : ended = _ := eq
      rw [eq]
      exact ⟨(List.nodup_append.mp distinct).1,
        .inr ⟨tip, tips, l, lost, polls.reachable, polls, ends, heights, short, handed⟩⟩

/-- A run from the tip 3 with one window, of which one height is stored before the scan and the
other one after it. -/
def interleaving : Option Ledger :=
  (Ledger.start (.ofStore (.empty .lenient)) ⟨2, 1⟩ 3).acts?
    [.insert (.empty 1 2), .scan, .insert (.empty 1 3), .poll 5, .take, .take]

theorem interleaving_conserved :
    ∃ l, Ledger.Reachable (.ofStore (.empty .lenient)) ⟨2, 1⟩ 3 l ∧ l.heights = [5, 4] ∧
      l.pipeline.queue.toList = [3] ∧ l.enqueued.Perm [4, 5, 3] ∧ l.enqueued.Nodup := by
  have ends : interleaving.any (fun l => l.heights == [5, 4] && l.pipeline.queue.toList == [3] &&
      l.pipeline.follower.watermark == 5 && l.scans.flatMap Scan.missing == [3]) = true := by
    decide +kernel
  obtain ⟨l, run, ends⟩ := (Option.any_eq_true _ _).mp ends
  simp only [Bool.and_eq_true, beq_iff_eq] at ends
  obtain ⟨⟨⟨heights, queue⟩, watermark⟩, scanned⟩ := ends
  have reached := Ledger.Reachable.acts .start run
  obtain ⟨-, produced, distinct, -⟩ :=
    (work_conserved (.ofStore (.empty .lenient)) ⟨2, 1⟩).1 3 l reached
  rw [watermark, scanned] at produced
  exact ⟨l, reached, heights, queue, produced, distinct⟩

end Pipeline

end BlockIndexer
