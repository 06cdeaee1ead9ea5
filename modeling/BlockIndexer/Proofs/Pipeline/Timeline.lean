import BlockIndexer.Pipeline.Run
import BlockIndexer.Proofs.Pipeline.Trace

/-! Runs on a clock are runs whose steps come in some order. Whatever the intervals are and the node
answers, each step of a timeline is a move of a trace or several, or leaves the pipeline alone, and
its polls are told the node's answers one after the other. So what holds of all traces holds of the
end of every polling run, and a run that has ended says why. -/

namespace BlockIndexer

theorem Pipeline.dispatch_of_cons {p : Pipeline} {source : Source} {height : Nat}
    {heights : List Nat} (queued : p.queue.toList = height :: heights) :
    p.dispatch source =
      some ((p.db.dispatch source height).1,
        { p with db := (p.db.dispatch source height).2, queue := p.queue.drop 1 }) := by
  have popped : p.queue.pop? = some (height, p.queue.drop 1) :=
    Queue.pop?_eq_some_iff.mpr (by rw [Queue.toList_drop, queued]; rfl)
  simp only [dispatch, Database.dispatchNext?, popped, Option.map_some]

/-! ### Receivers -/

/-- Offers go on with the receiver that those before have left. -/
theorem Receiver.offer_append {receiver later : Receiver} {items : List α}
    (left : (receiver.offer items).2 = some later) (more : List α) :
    receiver.offer (items ++ more) = (items ++ (later.offer more).1, (later.offer more).2) := by
  induction items generalizing receiver with
  | nil => cases left; rfl
  | cons a as ih =>
    rw [offer] at left
    rw [List.cons_append, offer]
    cases sent : receiver.send? with
    | none =>
      rw [sent] at left
      contradiction
    | some next =>
      simp only [sent] at left
      simp only [ih left, List.cons_append]

/-- A consumer that dispatches offers the events to its receiver. -/
theorem Database.offer_dispatchTo (db : Database) (source : Source) (receiver : Receiver)
    (heights : List Nat) :
    (receiver.offer (db.dispatchTo source receiver heights).1).2 =
      (db.dispatchTo source receiver heights).2.2 := by
  induction heights generalizing db receiver with
  | nil => rfl
  | cons height heights ih =>
    rw [dispatchTo]
    cases sent : receiver.send? with
    | none => simp only [Receiver.offer, sent]
    | some later => simp only [Receiver.offer, sent, ih]

/-! ### Steps of the pipeline -/

namespace Pipeline

variable {p p' : Pipeline} {answer : TipAnswer}

/-- A poll that goes on was told a tip. -/
theorem exists_height_of_poll (polled : p.poll answer = .goesOn p') :
    ∃ tip, answer = .height tip := by
  cases answer with
  | height tip => exact ⟨tip, rfl⟩
  | failed e => cases polled
  | crashed => cases polled

/-- What ends the follower is its own watermark and the answer. -/
theorem poll_eq_ends {how : TaskEnd} (same : p'.follower = p.follower)
    (polled : p.poll answer = .ends how) : p'.poll answer = .ends how := by
  cases answer with
  | height tip =>
    rw [poll_height] at polled ⊢
    rw [same]
    split at polled
    next below => rw [if_pos below, polled]
    next => cases polled
  | failed e => exact polled
  | crashed => exact polled

theorem follower_of_scan (scanned : p.scan = .goesOn p') : p'.follower = p.follower := by
  unfold scan at scanned
  split at scanned
  next => cases scanned
  next =>
    split at scanned
    next => cases scanned
    next => cases scanned; rfl

/-- Why a run has ended with some result, which was told these tips, the first of the answers: its
receiver was gone, or the next answer was a failure, or the scanner failed. -/
inductive Exits (p : Pipeline) (answers : List TipAnswer) (tips : List Nat) (gone : Prop) :
    Except Error Unit → Prop where
  | receiver : gone → Exits p answers tips gone (.ok ())
  | follower {answer : TipAnswer} {how : TaskEnd} {result : Except Error Unit} :
      tips.map .height ++ [answer] <+: answers ++ [.exhausted] → p.poll answer = .ends how →
      (Finish.follower how).ending = some result → Exits p answers tips gone result
  | scanner {how : TaskEnd} {result : Except Error Unit} : p.scan = .ends how →
      (Finish.scanner how).ending = some result → Exits p answers tips gone result

theorem Exits.scan {answers : List TipAnswer} {tips : List Nat} {gone : Prop}
    {result : Except Error Unit} (exits : p.Exits answers tips gone result)
    (scanned : p.scan = .goesOn p') : p'.Exits answers tips gone result := by
  cases exits with
  | receiver gone => exact .receiver gone
  | follower told polled ending =>
    exact .follower told (poll_eq_ends (follower_of_scan scanned) polled) ending
  | scanner ends => rw [scanned] at ends; cases ends

end Pipeline

namespace Trace

variable {origin t : Trace} {source : Source} {tips : List Nat} {p : Pipeline}

/-- The trace after dispatches that took some heights from the queue. -/
def afterDispatches (t : Trace) (events : List DispatchEvent) (db : Database) : Trace :=
  { t with
    pipeline := { t.pipeline with db, queue := t.pipeline.queue.drop events.length }
    events := t.events ++ events }

theorem move?_dispatch_of_cons {height : Nat} {heights : List Nat}
    (queued : t.pipeline.queue.toList = height :: heights) :
    t.move? (.dispatch source) =
      some (t.afterDispatches [(t.pipeline.db.dispatch source height).1]
        (t.pipeline.db.dispatch source height).2) := by
  rw [move?, Pipeline.dispatch_of_cons queued]
  rfl

/-- A consumer that dispatches what is queued makes one move after the other. -/
theorem Polls.dispatchTo (polls : origin.Polls source tips t) (receiver : Receiver) :
    origin.Polls source tips (t.afterDispatches
      (t.pipeline.db.dispatchTo source receiver t.pipeline.queue.toList).1
      (t.pipeline.db.dispatchTo source receiver t.pipeline.queue.toList).2.1) := by
  generalize queued : t.pipeline.queue.toList = heights
  induction heights generalizing t receiver with
  | nil =>
    have same : t.afterDispatches [] t.pipeline.db = t := by
      simp only [afterDispatches, List.length_nil, Queue.drop_zero, List.append_nil]
    rw [Database.dispatchTo, same]
    exact polls
  | cons height heights ih =>
    have step := polls.next (show (Move.dispatch source).MadeFrom source from rfl)
      (move?_dispatch_of_cons queued)
    rw [Move.tips, List.append_nil] at step
    rw [Database.dispatchTo]
    cases receiver.send? with
    | none => exact step
    | some receiver =>
      have rest := ih step receiver (by
        show (t.pipeline.queue.drop 1).toList = heights
        rw [Queue.toList_drop, queued]
        rfl)
      simp only [afterDispatches, Queue.drop_drop, List.append_assoc] at rest ⊢
      rwa [List.length_singleton, Nat.add_comm] at rest

end Trace

/-! ### How tasks end a run -/

theorem Finish.ending_eq_none_iff {f : Finish} : f.ending = none ↔ f = .scanner .done := by
  cases f with
  | follower how => cases how <;> simp [Finish.ending, TaskEnd.result]
  | scanner how => cases how <;> simp [Finish.ending, TaskEnd.result]
  | consumer result => simp [Finish.ending]

theorem supervise?_append {finished : List Finish} (before : supervise? finished = none)
    (f : Finish) : supervise? (finished ++ [f]) = f.ending := by
  rw [supervise?] at before ⊢
  rw [List.findSome?_append, before, Option.none_or]
  exact List.findSome?_singleton

theorem supervise?_append_of_some {finished : List Finish} {result : Except Error Unit}
    (before : supervise? finished = some result) (f : Finish) :
    supervise? (finished ++ [f]) = some result := by
  rw [supervise?] at before ⊢
  rw [List.findSome?_append, before, Option.some_or]

namespace Timeline

variable {t t' : Timeline}

theorem ending_finish (running : t.ending = none) (f : Finish) :
    (t.finish f).ending = f.ending := supervise?_append running f

theorem ending_finish_of_some {result : Except Error Unit} (ended : t.ending = some result)
    (f : Finish) : (t.finish f).ending = some result := supervise?_append_of_some ended f

/-- The follower takes the node's next answer. -/
def ask (t : Timeline) : Timeline :=
  { t with answers := (TipAnswer.next t.answers).2 }.poll (TipAnswer.next t.answers).1

theorem ask_of_nil (none : t.answers = []) : t.ask = t.poll .exhausted := by
  rw [ask, none, TipAnswer.next, ← none]

theorem ask_of_cons {answer : TipAnswer} {answers : List TipAnswer}
    (next : t.answers = answer :: answers) : t.ask = { t with answers }.poll answer := by
  rw [ask, next, TipAnswer.next]

theorem scanDue_induction {P : Timeline → Prop} (scan : ∀ t now, P t → P (t.scan now)) (h : P t)
    (now : Nat) : P (t.scanDue now) := by
  fun_induction Timeline.scanDue now t with
  | case1 => exact h
  | case2 t due _ _ ih => exact ih (scan t due h)
  | case3 => exact h

/-- What no step of a timeline breaks holds at its end. The consumer wakes and the follower asks
only before the end. -/
theorem run_induction {P : Timeline → Prop} (wake : ∀ t, t.ending = none → P t → P t.wake)
    (ask : ∀ t, t.ending = none → P t → P t.ask) (scan : ∀ t now, P t → P (t.scan now))
    (h : P t) : P t.run := by
  fun_induction Timeline.run t with
  | case1 => exact h
  | case2 t running _ ih => exact ih (wake t (Option.not_isSome_iff_eq_none.mp running) h)
  | case3 t _ _ due _ ih => exact ih (scan t due h)
  | case4 t running _ _ none =>
    have asked := ask t (Option.not_isSome_iff_eq_none.mp running) h
    rw [ask_of_nil none] at asked
    exact scanDue_induction scan asked t.nextPoll
  | case5 t running _ _ answer answers next ih =>
    have asked := ask t (Option.not_isSome_iff_eq_none.mp running) h
    rw [ask_of_cons next] at asked
    exact ih (scanDue_induction scan asked t.nextPoll)

theorem isSome_ending_scan (ended : t.ending.isSome = true) (now : Nat) :
    (t.scan now).ending.isSome = true := by
  obtain ⟨result, ended⟩ := Option.isSome_iff_exists.mp ended
  unfold scan
  split
  · exact Option.isSome_iff_exists.mpr ⟨result, ended⟩
  · exact Option.isSome_iff_exists.mpr ⟨result, ending_finish_of_some ended _⟩

/-- Every run comes to an end, at the latest when the node has no more answers. -/
theorem isSome_ending_run (t : Timeline) : t.run.ending.isSome = true := by
  fun_induction Timeline.run t with
  | case1 t ended => exact ended
  | case2 _ _ _ ih => exact ih
  | case3 _ _ _ _ _ ih => exact ih
  | case4 t running =>
    have failed : (t.poll .exhausted).ending = some (.error (.rpc "script exhausted")) :=
      ending_finish (Option.not_isSome_iff_eq_none.mp running) (.follower (.failed _))
    exact scanDue_induction (P := fun t => t.ending.isSome = true)
      (fun _ now ended => isSome_ending_scan ended now)
      (Option.isSome_iff_exists.mpr ⟨_, failed⟩) t.nextPoll
  | case5 _ _ _ _ _ _ _ ih => exact ih

/-! ### What a run was told -/

/-- A relation between tips and pipelines that the steps of the follower and the scanner keep. -/
structure Produced (R : List Nat → Pipeline → Prop) : Prop where
  poll : ∀ {tips p p' tip}, R tips p → p.poll (.height tip) = .goesOn p' → R (tips ++ [tip]) p'
  scan : ∀ {tips p p'}, R tips p → p.scan = .goesOn p' → R tips p'

/-- The follower was told these tips, which are the first of the node's answers. The pipeline is as
`R` says of them. A run that has ended has ended for a reason. -/
structure Told (R : List Nat → Pipeline → Prop) (answers : List TipAnswer) (gone : Prop)
    (t : Timeline) (tips : List Nat) : Prop where
  related : R tips t.pipeline
  told : tips.map .height <+: answers
  running : t.ending = none → tips.map .height ++ t.answers = answers
  ended : ∀ result, t.ending = some result → t.pipeline.Exits answers tips gone result

namespace Told

variable {R R' : List Nat → Pipeline → Prop} {answers : List TipAnswer} {gone gone' : Prop}
  {tips : List Nat}

theorem fails (told : t.Told R answers gone tips) (running : t.ending = none)
    {answer : TipAnswer} {left : List TipAnswer} {how : TaskEnd}
    (next : tips.map .height ++ [answer] <+: answers ++ [.exhausted])
    (polled : t.pipeline.poll answer = .ends how) :
    Told R answers gone ({ t with answers := left }.poll answer) tips := by
  have ending := ending_finish running (.follower how)
  simp only [Timeline.poll, polled]
  refine ⟨told.related, told.told, fun unended => ?_, fun result ended => ?_⟩
  · cases Finish.ending_eq_none_iff.mp (ending.symm.trans unended)
  · exact .follower next polled (ending.symm.trans ended)

theorem ask (told : t.Told R answers gone tips) (produced : Produced R)
    (running : t.ending = none) : ∃ tips, t.ask.Told R answers gone tips := by
  have all := told.running running
  cases left : t.answers with
  | nil =>
    rw [ask_of_nil left]
    rw [left, List.append_nil] at all
    have failed : t.pipeline.poll .exhausted = .ends (.failed (.rpc "script exhausted")) := rfl
    exact ⟨tips, told.fails running (all ▸ List.prefix_rfl) failed⟩
  | cons answer rest =>
    rw [left] at all
    have next : tips.map .height ++ [answer] <+: answers := by
      rw [← all]
      exact (List.prefix_append_right_inj _).mpr (List.prefix_append [answer] rest)
    rw [ask_of_cons left]
    cases polled : t.pipeline.poll answer with
    | ends how => exact ⟨tips, told.fails running (next.trans (List.prefix_append ..)) polled⟩
    | goesOn p =>
      obtain ⟨tip, rfl⟩ := Pipeline.exists_height_of_poll polled
      simp only [Timeline.poll, polled]
      refine ⟨tips ++ [tip], produced.poll told.related polled, ?_, fun _ => ?_, ?_⟩
      · rw [List.map_append]
        exact next
      · rw [List.map_append, ← all, List.append_assoc]
        rfl
      · intro result ended
        cases running.symm.trans ended

theorem scan (told : t.Told R answers gone tips) (produced : Produced R) (now : Nat) :
    (t.scan now).Told R answers gone tips := by
  unfold Timeline.scan
  cases scanned : t.pipeline.scan with
  | goesOn p =>
    exact ⟨produced.scan told.related scanned, told.told, told.running,
      fun result ended => (told.ended result ended).scan scanned⟩
  | ends how =>
    refine ⟨told.related, told.told, fun unended => ?_, fun result ended => ?_⟩
    · cases before : t.ending with
      | none => exact told.running before
      | some earlier => cases (ending_finish_of_some before _).symm.trans unended
    · cases before : t.ending with
      | none => exact .scanner scanned ((ending_finish before _).symm.trans ended)
      | some earlier =>
        cases (ending_finish_of_some before (.scanner how)).symm.trans ended
        exact told.ended result before

/-- The consumer ends a run only when it finds its receiver gone. -/
theorem consume (told : t.Told R answers gone tips) (running : t.ending = none)
    (same : t'.answers = t.answers) (related : R' tips t'.pipeline)
    (ending : t'.ending = none ∨ gone' ∧ t'.ending = some (.ok ())) :
    t'.Told R' answers gone' tips where
  related := related
  told := told.told
  running _ := same ▸ told.running running
  ended result ended := by
    rcases ending with unended | ⟨gone, ended'⟩
    · cases unended.symm.trans ended
    · cases ended'.symm.trans ended
      exact .receiver gone

end Told

/-- What a step of the follower or the scanner leaves alone: the consumer with its reports. -/
structure Produces (t t' : Timeline) : Prop where
  events : t'.events = t.events
  heights : t'.heights = t.heights
  consumer : t'.consumer = t.consumer
  running : t'.ending = none → t.ending = none

theorem running_of_finish {f : Finish} (unended : (t.finish f).ending = none) :
    t.ending = none := by
  cases before : t.ending with
  | none => rfl
  | some result => cases (ending_finish_of_some before f).symm.trans unended

theorem produces_scan (t : Timeline) (now : Nat) : t.Produces (t.scan now) := by
  unfold scan
  split
  · exact ⟨rfl, rfl, rfl, id⟩
  · exact ⟨rfl, rfl, rfl, running_of_finish⟩

theorem produces_ask (t : Timeline) : t.Produces t.ask := by
  unfold ask poll
  split
  · exact ⟨rfl, rfl, rfl, id⟩
  · exact ⟨rfl, rfl, rfl, running_of_finish⟩

/-! ### Runs that dispatch -/

/-- A pipeline is that of a trace with these events. -/
def Traced (origin : Trace) (source : Source) (events : List DispatchEvent) (tips : List Nat)
    (p : Pipeline) : Prop :=
  ∃ scanned, origin.Polls source tips ⟨p, scanned, events⟩

theorem traced_produced (origin : Trace) (source : Source) (events : List DispatchEvent) :
    Produced (Traced origin source events) where
  poll := by
    rintro tips p p' tip ⟨scanned, polls⟩ polled
    have step : Trace.move? ⟨p, scanned, events⟩ (.poll tip) = some ⟨p', scanned, events⟩ := by
      simp only [Trace.move?, polled]
    exact ⟨_, polls.next (show (Move.poll tip).MadeFrom source from trivial) step⟩
  scan := by
    rintro tips p p' ⟨scanned, polls⟩ goesOn
    cases hn : p.windows.next? with
    | none =>
      rw [(Trace.scan_eq_done_iff p).mpr hn] at goesOn
      cases goesOn
    | some next =>
      have step : Trace.move? ⟨p, scanned, events⟩ .scan =
          some ⟨p', scanned ++ [next.1], events⟩ := by
        simp only [Trace.move?, hn, goesOn]
      have polls := polls.next (show Move.scan.MadeFrom source from trivial) step
      rw [Move.tips, List.append_nil] at polls
      exact ⟨_, polls⟩

/-- The consumer dispatches, and the events so far have left its receiver. -/
def Dispatches (origin : Trace) (source : Source) (receiver : Receiver)
    (answers : List TipAnswer) (t : Timeline) : Prop :=
  (∃ tips, t.Told (Traced origin source t.events) answers ((receiver.offer t.events).2 = none)
    tips) ∧
  (t.ending = none → ∃ left, t.consumer = .dispatch source left ∧
    (receiver.offer t.events).2 = some left)

namespace Dispatches

variable {origin : Trace} {source : Source} {receiver : Receiver} {answers : List TipAnswer}

theorem ask (h : t.Dispatches origin source receiver answers) (running : t.ending = none) :
    t.ask.Dispatches origin source receiver answers := by
  obtain ⟨⟨tips, told⟩, serves⟩ := h
  obtain ⟨events, -, consumer, before⟩ := t.produces_ask
  rw [Dispatches, events, consumer]
  exact ⟨told.ask (traced_produced ..) running, fun unended => serves (before unended)⟩

theorem scan (h : t.Dispatches origin source receiver answers) (now : Nat) :
    (t.scan now).Dispatches origin source receiver answers := by
  obtain ⟨⟨tips, told⟩, serves⟩ := h
  obtain ⟨events, -, consumer, before⟩ := t.produces_scan now
  rw [Dispatches, events, consumer]
  exact ⟨⟨tips, told.scan (traced_produced ..) now⟩, fun unended => serves (before unended)⟩

theorem wake (h : t.Dispatches origin source receiver answers) (running : t.ending = none) :
    t.wake.Dispatches origin source receiver answers := by
  obtain ⟨⟨tips, told⟩, serves⟩ := h
  obtain ⟨left, consumer, offered⟩ := serves running
  have ⟨scanned, polls⟩ := told.related
  have dispatched := polls.dispatchTo left
  have after := congrArg Prod.snd (Receiver.offer_append offered
    (t.pipeline.db.dispatchTo source left t.pipeline.queue.toList).1)
  rw [Database.offer_dispatchTo] at after
  unfold Timeline.wake Timeline.consume
  simp only [consumer]
  cases gone : (t.pipeline.db.dispatchTo source left t.pipeline.queue.toList).2.2 with
  | none =>
    rw [gone] at after
    have ended := ending_finish running (.consumer (.ok ()))
    exact ⟨⟨tips, told.consume running rfl ⟨scanned, dispatched⟩ (.inr ⟨after, ended⟩)⟩,
      fun unended => by cases ended.symm.trans unended⟩
  | some later =>
    rw [gone] at after
    exact ⟨⟨tips, told.consume running rfl ⟨scanned, dispatched⟩ (.inl running)⟩,
      fun _ => ⟨later, rfl, after⟩⟩

theorem run (h : t.Dispatches origin source receiver answers) :
    t.run.Dispatches origin source receiver answers :=
  run_induction (fun _ running h => h.wake running) (fun _ running h => h.ask running)
    (fun _ now h => h.scan now) h

end Dispatches

end Timeline

/-- A run that started at the tip reported first, was told some tips after it and ended as this
pipeline did. -/
structure FinishedRun.EndsAt (run : FinishedRun) (answers : List TipAnswer) (tip : Nat)
    (tips : List Nat) (p : Pipeline) (gone : Prop) : Prop where
  first : (TipAnswer.next answers).1 = .height tip
  told : tips.map .height <+: (TipAnswer.next answers).2
  exits : p.Exits (TipAnswer.next answers).2 tips gone run.result
  db : run.db = p.db
  queue : run.queue = p.queue

namespace Pipeline

/-- Why a run does not start: the store refuses to say how far it is, or the node to report a
tip. -/
def Unstarted (db : Database) (answers : List TipAnswer) (e : Error) : Prop :=
  db.maxHeight? = .error e ∨
    (∃ h, db.maxHeight? = .ok h) ∧ (TipAnswer.next answers).1.toExcept = .error e

theorem runWith_of_unstarted {db : Database} {answers : List TipAnswer} {e : Error}
    (unstarted : Unstarted db answers e) (consumer : Consumer) (scanner : GapScanner)
    (intervals : Intervals) : runWith consumer db scanner intervals answers = .notStarted db e := by
  have failed : startFrom db scanner answers = .error e := by
    rcases unstarted with refused | ⟨⟨h, stored⟩, failed⟩
    · rw [startFrom, refused]
      rfl
    · rw [startFrom, stored]
      show (TipAnswer.next answers).1.toExcept.bind _ = _
      rw [failed]
      rfl
  rw [runWith, failed]

/-- A run does not start, or goes on from the tip that the node reported first. -/
theorem runWith_cases (consumer : Consumer) (db : Database) (scanner : GapScanner)
    (intervals : Intervals) (answers : List TipAnswer) :
    (∃ e, Unstarted db answers e ∧
      runWith consumer db scanner intervals answers = .notStarted db e) ∨
    ∃ tip, (TipAnswer.next answers).1 = .height tip ∧ (∃ h, db.maxHeight? = .ok h) ∧
      runWith consumer db scanner intervals answers = .ofTimeline (Timeline.start
        (start db scanner tip) intervals (TipAnswer.next answers).2 consumer 0).run := by
  unfold runWith startFrom
  cases stored : db.maxHeight? with
  | error e => exact .inl ⟨e, .inl stored, rfl⟩
  | ok h =>
    cases answer : (TipAnswer.next answers).1 with
    | height tip => exact .inr ⟨tip, rfl, ⟨h, rfl⟩, rfl⟩
    | failed e => exact .inl ⟨e, .inr ⟨⟨h, stored⟩, by rw [answer]; rfl⟩, rfl⟩
    | crashed => exact .inl ⟨_, .inr ⟨⟨h, stored⟩, by rw [answer]; rfl⟩, rfl⟩

/-- What a timeline was told at its end, which it always comes to. -/
theorem endsAt_ofTimeline {R : List Nat → Pipeline → Prop} {answers : List TipAnswer} {gone : Prop}
    {t : Timeline} {tip : Nat} {tips : List Nat}
    (first : (TipAnswer.next answers).1 = .height tip)
    (told : t.run.Told R (TipAnswer.next answers).2 gone tips) :
    (FinishedRun.ofTimeline t.run).EndsAt answers tip tips t.run.pipeline gone := by
  refine ⟨first, told.told, told.ended _ ?_, rfl, rfl⟩
  obtain ⟨result, ended⟩ := Option.isSome_iff_exists.mp t.isSome_ending_run
  rw [FinishedRun.ofTimeline, Timeline.result, ended]
  rfl

/-- A polling run does not start, or ends as a trace from the tip that the node reported first. -/
theorem runPolling_traced (source : Source) (receiver : Receiver) (db : Database)
    (scanner : GapScanner) (intervals : Intervals) (answers : List TipAnswer) :
    let ended := runPolling source receiver db scanner intervals answers
    (∃ e, Unstarted db answers e ∧ ended = .notStarted db e) ∨
    ∃ tip tips t, (Trace.start db scanner tip).Polls source tips t ∧
      ended.EndsAt answers tip tips t.pipeline ((receiver.offer ended.events).2 = none) ∧
      ended.events = t.events := by
  intro ended
  rcases runWith_cases (.dispatch source receiver) db scanner intervals answers with failed |
    ⟨tip, first, -, eq⟩
  · exact .inl failed
  · have started : (Timeline.start (start db scanner tip) intervals (TipAnswer.next answers).2
        (.dispatch source receiver) 0).Dispatches (Trace.start db scanner tip) source receiver
        (TipAnswer.next answers).2 :=
      ⟨⟨[], ⟨[], .start⟩, List.nil_prefix, fun _ => rfl, nofun⟩, fun _ => ⟨receiver, rfl, rfl⟩⟩
    obtain ⟨⟨tips, told⟩, -⟩ := started.run
    obtain ⟨scanned, polls⟩ := told.related
    have eq : ended = _ := eq
    rw [eq]
    exact .inr ⟨tip, tips, _, polls, endsAt_ofTimeline first told, rfl⟩

end Pipeline

end BlockIndexer
