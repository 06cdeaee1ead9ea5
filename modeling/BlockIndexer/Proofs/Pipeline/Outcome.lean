import BlockIndexer.Proofs.Pipeline.Supervision

/-! What runs on a clock end with. Their steps are those of a supervised run, except that the
scanner may look at windows that are due after the follower has ended and before that is seen. So a
polling run ends as some supervised run does, or it does not start. -/

namespace BlockIndexer

namespace Timeline

/-- The timeline of a run that has not ended is where a supervised run is, which was given the first
of the node's answers. -/
structure Follows (origin : Supervised) (source : Source) (answers : List TipAnswer)
    (t : Timeline) (s : Supervised) : Prop where
  polls : ∃ polled, origin.Polls source polled s ∧ polled ++ t.answers = answers
  pipeline : s.pipeline = t.pipeline
  events : s.events = t.events
  consumer : t.consumer = .dispatch source s.receiver
  finished : s.finished = t.finished
  joined : s.joined = t.finished
  idle : t.finished = [] ∧ s.awaitsScanner = true ∨
    t.finished = [.scanner .done] ∧ t.nextScan = none

/-- The follower has ended, which the supervised run has not seen yet. -/
structure Fails (origin : Supervised) (source : Source) (answers : List TipAnswer)
    (t : Timeline) (s : Supervised) : Prop where
  polls : ∃ polled, origin.Polls source polled s ∧ polled <+: answers ++ [.exhausted]
  pipeline : s.pipeline = t.pipeline
  events : s.events = t.events
  running : s.result? = none
  ended : ∃ f, s.ended? .follower = some f ∧ f.ending.isSome = true ∧ t.ending = f.ending
  scans : t.nextScan.isSome = true → s.runs .scanner = true

/-- Both have ended, and in the same way. -/
structure Agrees (origin : Supervised) (source : Source) (answers : List TipAnswer)
    (t : Timeline) (s : Supervised) : Prop where
  polls : ∃ polled, origin.Polls source polled s ∧ polled <+: answers ++ [.exhausted]
  pipeline : s.pipeline = t.pipeline
  events : s.events = t.events
  ended : t.ending.isSome = true
  result : s.result? = t.ending

variable {origin s : Supervised} {t : Timeline} {source : Source} {answers : List TipAnswer}
  {how : TaskEnd}

/-- Nothing was polled that is not among the answers. -/
theorem polled_prefix {polled : List TipAnswer} (all : polled ++ t.answers = answers) :
    polled <+: answers ++ [.exhausted] := by
  rw [← all, List.append_assoc]
  exact List.prefix_append ..

namespace Follows

theorem running (follows : t.Follows origin source answers s) :
    s.result? = none ∧ t.ending = none := by
  rw [Supervised.result?, follows.joined, ending]
  rcases follows.idle with ⟨none, -⟩ | ⟨done, -⟩
  · rw [none]
    exact ⟨rfl, rfl⟩
  · rw [done]
    exact ⟨rfl, rfl⟩

theorem runs {task : Task} (follows : t.Follows origin source answers s)
    (other : task ≠ .scanner) : s.runs task = true := by
  rw [Supervised.runs, follows.finished]
  rcases follows.idle with ⟨none, -⟩ | ⟨done, -⟩
  · rw [none]
    rfl
  · rw [done]
    cases task with
    | follower => rfl
    | scanner => contradiction
    | consumer => rfl

theorem wake (follows : t.Follows origin source answers s) :
    (∃ s', t.wake.Follows origin source answers s') ∨
      ∃ s', t.wake.Agrees origin source answers s' := by
  obtain ⟨running, unended⟩ := follows.running
  have runs : s.runs .consumer = true := follows.runs (by decide)
  obtain ⟨polled, polls, all⟩ := follows.polls
  obtain ⟨receiver, dispatched⟩ := polls.dispatchTo running runs
  obtain ⟨pipeline, listening, events, finished, joined, awaits⟩ := s
  obtain ⟨-, rfl, rfl, consumer, rfl, rfl, idle⟩ := follows
  unfold Timeline.wake consume
  simp only [consumer]
  cases gone : (t.pipeline.db.dispatchTo source listening t.pipeline.queue.toList).2.2 with
  | none =>
    simp only [gone] at dispatched
    have ended := Supervised.ended?_finish runs (f := Finish.consumer (.ok ())) nofun
    refine .inr ⟨_, ⟨polled, dispatched.join running ended, polled_prefix all⟩, rfl, rfl, ?_, rfl⟩
    exact Option.isSome_iff_exists.mpr ⟨_, ending_finish unended (.consumer (.ok ()))⟩
  | some receiver =>
    simp only [gone] at dispatched
    exact .inl ⟨_, ⟨polled, dispatched, all⟩, rfl, rfl, rfl, rfl, rfl, idle⟩

theorem scan (follows : t.Follows origin source answers s) {due : Nat}
    (scheduled : t.nextScan = some due) :
    (∃ s', (t.scan due).Follows origin source answers s') ∨
      (t.scan due).nextScan = none ∧ ∃ s', (t.scan due).Agrees origin source answers s' := by
  obtain ⟨running, unended⟩ := follows.running
  obtain ⟨pipeline, receiver, events, finished, joined, awaits⟩ := s
  obtain ⟨⟨polled, polls, all⟩, rfl, rfl, consumer, rfl, rfl, idle⟩ := follows
  obtain ⟨none, rfl⟩ : t.finished = [] ∧ awaits = true := by
    rcases idle with first | ⟨-, passed⟩
    · exact first
    · rw [scheduled] at passed
      contradiction
  have runs : Supervised.runs ⟨t.pipeline, receiver, t.events, t.finished, t.finished, true⟩
      .scanner = true := by
    rw [Supervised.runs, none]
    rfl
  have step := polls.scan running runs
  unfold Timeline.scan
  cases scanned : t.pipeline.scan with
  | goesOn pipeline =>
    simp only [scanned, Supervised.take] at step
    exact .inl ⟨_, ⟨polled, step, all⟩, rfl, rfl, consumer, rfl, rfl, .inl ⟨none, rfl⟩⟩
  | ends how =>
    simp only [scanned, Supervised.take] at step
    have joined := step.join running
      (Supervised.ended?_finish (f := Finish.scanner how) runs fun _ => rfl)
    cases ending : (Finish.scanner how).ending with
    | none =>
      cases Finish.ending_eq_none_iff.mp ending
      refine .inl ⟨_, ⟨polled, joined, all⟩, rfl, rfl, consumer, rfl, rfl, .inr ⟨?_, rfl⟩⟩
      show t.finished ++ [_] = _
      rw [none]
      rfl
    | some result =>
      refine .inr ⟨rfl, _, ⟨polled, joined, polled_prefix all⟩, rfl, rfl, ?_, rfl⟩
      exact Option.isSome_iff_exists.mpr ⟨result, (ending_finish unended _).trans ending⟩

theorem poll (follows : t.Follows origin source answers s) {answer : TipAnswer}
    {left : List TipAnswer} {pipeline : Pipeline} (next : t.answers = answer :: left)
    (goesOn : t.pipeline.poll answer = .goesOn pipeline) :
    ∃ s', ({ t with answers := left }.poll answer).Follows origin source answers s' := by
  have running : s.result? = none := follows.running.1
  have runs : s.runs .follower = true := follows.runs (by decide)
  obtain ⟨_, receiver, events, finished, joined, awaits⟩ := s
  obtain ⟨⟨polled, polls, all⟩, rfl, rfl, consumer, rfl, rfl, idle⟩ := follows
  have step := polls.poll running runs answer
  have all : polled ++ [answer] ++ left = answers := by
    rw [← all, next, List.append_assoc]
    rfl
  simp only [goesOn, Supervised.take] at step
  simp only [Timeline.poll, goesOn]
  exact ⟨_, ⟨_, step, all⟩, rfl, rfl, consumer, rfl, rfl, idle⟩

theorem fails (follows : t.Follows origin source answers s) {answer : TipAnswer}
    {left : List TipAnswer} (next : [answer] <+: t.answers ++ [.exhausted])
    (ends : t.pipeline.poll answer = .ends how) :
    ∃ s', ({ t with answers := left }.poll answer).Fails origin source answers s' := by
  obtain ⟨running, unended⟩ := follows.running
  have runs : s.runs .follower = true := follows.runs (by decide)
  have ended := Supervised.ended?_finish (f := Finish.follower how) runs fun scanner => by
    contradiction
  have exits : (Finish.follower how).ending ≠ none := by
    intro ending
    cases Finish.ending_eq_none_iff.mp ending
  obtain ⟨pipeline, receiver, events, finished, joined, awaits⟩ := s
  obtain ⟨⟨polled, polls, all⟩, rfl, rfl, consumer, rfl, rfl, idle⟩ := follows
  have step := polls.poll running runs answer
  have told : polled ++ [answer] <+: answers ++ [.exhausted] := by
    rw [← all, List.append_assoc]
    exact (List.prefix_append_right_inj polled).mpr next
  simp only [ends, Supervised.take] at step
  simp only [Timeline.poll, ends]
  refine ⟨_, ⟨_, step, told⟩, rfl, rfl, running, ⟨_, ended, ?_, ?_⟩, fun scheduled => ?_⟩
  · exact Option.isSome_iff_ne_none.mpr exits
  · exact supervise?_append unended _
  · rcases idle with ⟨none, -⟩ | ⟨-, passed⟩
    · rw [Supervised.runs, Supervised.finish, none]
      rfl
    · have unscheduled : t.nextScan.isSome = false := by rw [passed]; rfl
      rw [finish, unscheduled] at scheduled
      contradiction

/-- A node that has no more answers ends the follower. -/
theorem exhausted (follows : t.Follows origin source answers s) (none : t.answers = []) :
    ∃ s', t.ask.Fails origin source answers s' := by
  have failed : t.pipeline.poll .exhausted = .ends (.failed (.rpc "script exhausted")) := rfl
  rw [ask_of_nil none]
  exact follows.fails ⟨[], by simp only [none, List.nil_append, List.append_nil]⟩ failed

theorem ask (follows : t.Follows origin source answers s) :
    (∃ s', t.ask.Follows origin source answers s') ∨
      ∃ s', t.ask.Fails origin source answers s' := by
  cases left : t.answers with
  | nil => exact .inr (follows.exhausted left)
  | cons answer rest =>
    rw [ask_of_cons left]
    cases polled : t.pipeline.poll answer with
    | goesOn pipeline => exact .inl (follows.poll left polled)
    | ends how =>
      refine .inr (follows.fails ?_ polled)
      rw [left]
      exact List.prefix_append [answer] _

end Follows

namespace Fails

theorem scan (fails : t.Fails origin source answers s) {due : Nat}
    (scheduled : t.nextScan = some due) :
    ∃ s', (t.scan due).Fails origin source answers s' := by
  have runs : s.runs .scanner = true := fails.scans (by rw [scheduled]; rfl)
  obtain ⟨pipeline, receiver, events, finished, joined, awaits⟩ := s
  obtain ⟨⟨polled, polls, told⟩, rfl, rfl, running, ⟨f, ended, exits, ending⟩, -⟩ := fails
  have step := polls.scan running runs
  unfold Timeline.scan
  cases scanned : t.pipeline.scan with
  | goesOn pipeline =>
    simp only [scanned, Supervised.take] at step
    exact ⟨_, ⟨polled, step, told⟩, rfl, rfl, running, ⟨f, ended, exits, ending⟩, fun _ => runs⟩
  | ends how =>
    simp only [scanned, Supervised.take] at step
    obtain ⟨result, exit⟩ := Option.isSome_iff_exists.mp exits
    have ended' := Supervised.ended?_finish_of_some ended (.scanner how)
    refine ⟨_, ⟨polled, step, told⟩, rfl, rfl, running, ⟨f, ended', exits, ?_⟩, nofun⟩
    rw [exit] at ending ⊢
    exact supervise?_append_of_some ending _

theorem scanDue (fails : t.Fails origin source answers s) (now : Nat) :
    ∃ s', (t.scanDue now).Fails origin source answers s' := by
  fun_induction Timeline.scanDue now t generalizing s with
  | case1 => exact ⟨s, fails⟩
  | case2 t due scheduled _ ih =>
    obtain ⟨s', later⟩ := fails.scan scheduled
    exact ih later
  | case3 => exact ⟨s, fails⟩

/-- The end of the follower is seen after the scanner has looked at the windows that are due. -/
theorem agrees_scanDue (fails : t.Fails origin source answers s) (now : Nat) :
    ∃ s', (t.scanDue now).Agrees origin source answers s' := by
  obtain ⟨s', fails⟩ := fails.scanDue now
  obtain ⟨polled, polls, told⟩ := fails.polls
  obtain ⟨f, ended, exits, ending⟩ := fails.ended
  refine ⟨_, ⟨polled, polls.join fails.running ended, told⟩, fails.pipeline, fails.events, ?_, ?_⟩
  · rw [ending]
    exact exits
  · rw [ending]
    exact supervise?_append fails.running f

end Fails

theorem Follows.scanDue (follows : t.Follows origin source answers s) (now : Nat) :
    (∃ s', (t.scanDue now).Follows origin source answers s') ∨
      ∃ s', (t.scanDue now).Agrees origin source answers s' := by
  fun_induction Timeline.scanDue now t generalizing s with
  | case1 => exact .inl ⟨s, follows⟩
  | case2 t due scheduled _ ih =>
    rcases follows.scan scheduled with ⟨s', later⟩ | ⟨passed, s', agrees⟩
    · exact ih later
    · refine .inr ⟨s', ?_⟩
      rw [Timeline.scanDue]
      split
      next => exact agrees
      next due' again =>
        rw [passed] at again
        contradiction
  | case3 => exact .inl ⟨s, follows⟩

theorem Follows.answered (follows : t.Follows origin source answers s) (now : Nat) :
    (∃ s', (t.ask.scanDue now).Follows origin source answers s') ∨
      ∃ s', (t.ask.scanDue now).Agrees origin source answers s' := by
  rcases follows.ask with ⟨s', follows⟩ | ⟨s', fails⟩
  · exact follows.scanDue now
  · exact .inr (fails.agrees_scanDue now)

/-- A run comes to an end, and a supervised run comes to the same end. -/
theorem agrees_run (related : (∃ s, t.Follows origin source answers s) ∨
    ∃ s, t.Agrees origin source answers s) : ∃ s, t.run.Agrees origin source answers s := by
  fun_induction Timeline.run t with
  | case1 t ended =>
    rcases related with ⟨s, follows⟩ | agrees
    · rw [follows.running.2] at ended
      contradiction
    · exact agrees
  | case2 t running _ ih =>
    rcases related with ⟨s, follows⟩ | ⟨s, agrees⟩
    · exact ih follows.wake
    · exact absurd agrees.ended running
  | case3 t running _ due scheduled ih =>
    rcases related with ⟨s, follows⟩ | ⟨s, agrees⟩
    · rcases follows.scan (Option.filter_eq_some_iff.mp scheduled).1 with later | ⟨-, later⟩
      · exact ih (.inl later)
      · exact ih (.inr later)
    · exact absurd agrees.ended running
  | case4 t running _ _ none =>
    rcases related with ⟨s, follows⟩ | ⟨s, agrees⟩
    · obtain ⟨s', fails⟩ := follows.exhausted none
      rw [ask_of_nil none] at fails
      exact fails.agrees_scanDue t.nextPoll
    · exact absurd agrees.ended running
  | case5 t running _ _ answer answers next ih =>
    rcases related with ⟨s, follows⟩ | ⟨s, agrees⟩
    · have answered := follows.answered t.nextPoll
      rw [ask_of_cons next] at answered
      exact ih answered
    · exact absurd agrees.ended running

end Timeline

namespace Pipeline

/-- A polling run. If the store or the node fails when it starts, it ends with that error and has
done nothing. Otherwise it comes to where some supervised run comes to, whose dispatches ask its
source and whose polls are given the node's answers one after the other, and ends as that does. Of
every such run, it holds what `Contained` says: failures of heights end no task, and the run ends
with the first end of a task that is seen: with the error of a poll or of a query, with one that
names the task that crashed, or, when the receiver is gone, without an error. -/
theorem failures_contained (source : Source) (receiver : Receiver) (db : Database)
    (scanner : GapScanner) (intervals : Intervals) (answers : List TipAnswer) :
    let ended := runPolling source receiver db scanner intervals answers
    let first := (TipAnswer.next answers).1
    (∀ e, (db.maxHeight? = .error e ∨ (∃ h, db.maxHeight? = .ok h) ∧ first = .failed e) →
      ended = ⟨.error e, [], [], db, .empty⟩) ∧
    (∀ h tip, db.maxHeight? = .ok h → first = .height tip →
      ∃ s, (Supervised.start db scanner tip receiver).Reachable s ∧
        s.result? = some ended.result ∧ s.events = ended.events ∧ s.pipeline.db = ended.db ∧
          s.pipeline.queue = ended.queue ∧
        ∃ polled, (Supervised.start db scanner tip receiver).Polls source polled s ∧
          polled <+: (TipAnswer.next answers).2 ++ [.exhausted]) ∧
    ∀ tip s, (Supervised.start db scanner tip receiver).Reachable s →
      Supervised.Contained (.start db scanner tip receiver) s := by
  intro ended first
  refine ⟨fun e failed => ?_, fun h tip stored reported => ?_,
    fun tip s reached => reached.contained⟩
  · refine runWith_of_unstarted ?_ (.dispatch source receiver) scanner intervals
    rcases failed with refused | ⟨stored, failed⟩
    · exact .inl refused
    · exact .inr ⟨stored, congrArg TipAnswer.toExcept failed⟩
  · rcases runWith_cases (.dispatch source receiver) db scanner intervals answers with
      ⟨e, refused | ⟨-, failed⟩, -⟩ | ⟨tip', reported', -, run⟩
    · cases stored.symm.trans refused
    · cases (congrArg TipAnswer.toExcept reported).symm.trans failed
    · cases reported.symm.trans reported'
      have follows : (Timeline.start (start db scanner tip) intervals (TipAnswer.next answers).2
          (.dispatch source receiver) 0).Follows (.start db scanner tip receiver) source
          (TipAnswer.next answers).2 (.start db scanner tip receiver) :=
        ⟨⟨[], .start, rfl⟩, rfl, rfl, rfl, rfl, rfl, .inl ⟨rfl, rfl⟩⟩
      obtain ⟨s, agrees⟩ := Timeline.agrees_run (.inl ⟨_, follows⟩)
      obtain ⟨polled, polls, told⟩ := agrees.polls
      have run : ended = _ := run
      refine ⟨s, polls.reachable, ?_, ?_, ?_, ?_, polled, polls, told⟩
      · obtain ⟨result, ending⟩ := Option.isSome_iff_exists.mp agrees.ended
        rw [agrees.result, run, FinishedRun.ofTimeline, Timeline.result, ending]
        rfl
      · rw [agrees.events, run]
        rfl
      · rw [agrees.pipeline, run]
        rfl
      · rw [agrees.pipeline, run]
        rfl

/-- The follower queues a height that no source has. That it is dropped ends nothing, nor does the
end of the scanner, which is seen before the follower fails. -/
theorem dropped_height_contained :
    let db := Database.ofStore (.empty .lenient)
    let unknown : Source := fun _ => .error (.rpc "no block")
    let ended := runPolling unknown .staying db ⟨3, 0⟩ ⟨1, 1, 1⟩
    let start := Supervised.start db ⟨3, 0⟩ 5 .staying
    ended [.failed (.rpc "down")] = ⟨.error (.rpc "down"), [], [], db, .empty⟩ ∧
    (∃ s, start.Reachable s ∧ s.result? = some (ended [.height 5]).result) ∧
    ∃ s, start.Reachable s ∧ s.events = [.dropped 6 (.rpc "no block")] ∧
      s.result? = some (.error (.rpc "down")) ∧
      ∃ earlier act next f, start.Reachable earlier ∧ earlier.act? act = some next ∧
        earlier.Ends act f (some (.error (.rpc "down"))) ∧ next.Reachable s ∧
          (s.joined = [f] ∨ s.joined = [.scanner .done, f]) := by
  intro db unknown ended start
  have contained := failures_contained unknown .staying db ⟨3, 0⟩ ⟨1, 1, 1⟩
  obtain ⟨unstarted, -, -⟩ := contained [.failed (.rpc "down")]
  obtain ⟨-, started, each⟩ := contained [.height 5]
  obtain ⟨s, reached, result, -⟩ := started none 5 rfl rfl
  refine ⟨unstarted _ (.inr ⟨⟨none, rfl⟩, rfl⟩), ⟨s, reached, result⟩, ?_⟩
  let acts : List Supervised.Act := [.scan, .poll (.height 6), .join .scanner, .dispatch unknown,
    .poll (.failed (.rpc "down")), .join .follower]
  obtain ⟨s, run, ends⟩ : ∃ s, acts.foldlM Supervised.act? start = some s ∧
      s.events = [.dropped 6 (.rpc "no block")] ∧ s.result? = some (.error (.rpc "down")) :=
    ⟨_, rfl, rfl, rfl⟩
  have reached := Supervised.Reachable.acts run
  exact ⟨s, reached, ends.1, ends.2, (each 5 s reached).returned _ ends.2⟩

end Pipeline

end BlockIndexer
