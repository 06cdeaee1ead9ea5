import BlockIndexer.Proofs.Pipeline.Timeline
import Mathlib.Data.List.Nodup

/-! What ends a run. The follower, the scanner and the consumer take their steps in any order, with
any answers, sources, refused queries and crashes, and one who waits for the first of them to finish
sees their ends in any order. The result is the end of the task that was seen first, a scanner that
is through with its windows aside, and no failure of a height is among the ends of the tasks. -/

namespace BlockIndexer

inductive Task where
  | follower
  | scanner
  | consumer
  deriving DecidableEq, Repr

def Finish.task : Finish → Task
  | .follower _ => .follower
  | .scanner _ => .scanner
  | .consumer _ => .consumer

/-- A pipeline whose tasks are waited for. -/
structure Supervised where
  pipeline : Pipeline
  receiver : Receiver
  /-- The events of the dispatches so far. -/
  events : List DispatchEvent
  /-- The tasks that have finished, the first one first. -/
  finished : List Finish
  /-- Those whose end was seen, the first one first. -/
  joined : List Finish
  awaitsScanner : Bool

namespace Supervised

inductive Act where
  | poll (answer : TipAnswer)
  | scan
  | crashScan
  | dispatch (source : Source)
  /-- The end of a task is seen. -/
  | join (task : Task)
  | plantFailure (height position : Nat)
  | refuse (query : Query) (reason : Option String)

/-- The steps of a run that has one source. -/
def Act.MadeFrom (source : Source) : Act → Prop
  | .poll _ | .scan | .join _ => True
  | .dispatch asked => asked = source
  | .crashScan | .plantFailure _ _ | .refuse _ _ => False

/-- The answer that a step was given. -/
def Act.answers : Act → List TipAnswer
  | .poll answer => [answer]
  | .scan | .crashScan | .dispatch _ | .join _ | .plantFailure _ _ | .refuse _ _ => []

def start (db : Database) (scanner : GapScanner) (tip : Nat) (receiver : Receiver) : Supervised :=
  ⟨.start db scanner tip, receiver, [], [], [], true⟩

/-- What the run ended with, if it has. -/
def result? (s : Supervised) : Option (Except Error Unit) := supervise? s.joined

def runs (s : Supervised) (task : Task) : Bool := s.finished.all (·.task ≠ task)

def finish (s : Supervised) (f : Finish) : Supervised := { s with finished := s.finished ++ [f] }

/-- The end of a task that can be seen. A scanner is no longer waited for when its end was seen. -/
def ended? (s : Supervised) (task : Task) : Option Finish :=
  if task = .scanner ∧ s.awaitsScanner = false then none
  else s.finished.find? (·.task = task)

def join (s : Supervised) (f : Finish) : Supervised :=
  { s with
    joined := s.joined ++ [f]
    awaitsScanner := s.awaitsScanner && f.task ≠ .scanner }

def setDatabase (s : Supervised) (db : Database) : Supervised :=
  { s with pipeline := { s.pipeline with db } }

/-- A step of the pipeline that a task makes. -/
def take (s : Supervised) (finish : TaskEnd → Finish) : Pipeline.Step → Supervised
  | .goesOn pipeline => { s with pipeline }
  | .ends how => s.finish (finish how)

/-- The consumer reports what it dispatched. It is done when the receiver is gone. -/
def report (s : Supervised) (dispatched : DispatchEvent × Pipeline) : Supervised :=
  let reported := { s with pipeline := dispatched.2, events := s.events ++ [dispatched.1] }
  match s.receiver.send? with
  | none => reported.finish (.consumer (.ok ()))
  | some receiver => { reported with receiver }

/-- The run after a step, if there is something to do. A task that has finished does nothing
more. -/
def step? (s : Supervised) : Act → Option Supervised
  | .poll answer =>
    if s.runs .follower then some (s.take .follower (s.pipeline.poll answer)) else none
  | .scan => if s.runs .scanner then some (s.take .scanner s.pipeline.scan) else none
  | .crashScan => if s.runs .scanner then some (s.finish (.scanner .crashed)) else none
  | .dispatch source =>
    if s.runs .consumer then (s.pipeline.dispatch source).map s.report else none
  | .join task => (s.ended? task).map s.join
  | .plantFailure height position =>
    let db := s.pipeline.db
    some (s.setDatabase { db with store := db.store.plantFailure height position })
  | .refuse query reason => some (s.setDatabase (s.pipeline.db.refuse query reason))

/-- A run that has ended takes no step. -/
def act? (s : Supervised) (act : Act) : Option Supervised :=
  if s.result? = none then s.step? act else none

/-- What a run comes to by steps in any order and number. -/
inductive Reachable (origin : Supervised) : Supervised → Prop where
  | start : Reachable origin origin
  | next {s s' : Supervised} {act : Act} : Reachable origin s → s.act? act = some s' →
      Reachable origin s'

/-- What a run with one source comes to when its polls were given these answers, first to last. -/
abbrev Polls (origin : Supervised) (source : Source) : List TipAnswer → Supervised → Prop :=
  Leads act? (Act.MadeFrom source) Act.answers origin

/-- The steps that end a task: how it ends, and what the run ends with if no other end is seen
before. -/
inductive Ends (s : Supervised) : Act → Finish → Option (Except Error Unit) → Prop where
  | statusFailed (e : Error) :
      Ends s (.poll (.failed e)) (.follower (.failed e)) (some (.error e))
  | tipRegressed {current : Nat} (below : current < s.pipeline.follower.watermark) :
      Ends s (.poll (.height current))
        (.follower (.failed (.tipRegressed s.pipeline.follower.watermark current)))
        (some (.error (.tipRegressed s.pipeline.follower.watermark current)))
  | pollCrashed :
      Ends s (.poll .crashed) (.follower .crashed) (some (.error (.taskFailed "tip follower")))
  | queryFailed {window : Window} {windows : ScanWindows} {e : Error}
      (next : s.pipeline.windows.next? = some (window, windows))
      (failed : s.pipeline.db.missingHeights window.min window.max
        s.pipeline.scanner.windowSize = .error e) :
      Ends s .scan (.scanner (.failed e)) (some (.error e))
  | scanDone (passed : s.pipeline.windows.next? = none) : Ends s .scan (.scanner .done) none
  | scanCrashed :
      Ends s .crashScan (.scanner .crashed) (some (.error (.taskFailed "gap scanner")))
  | receiverGone (source : Source) (gone : s.receiver.send? = none) :
      Ends s (.dispatch source) (.consumer (.ok ())) (some (.ok ()))

variable {origin s s' later : Supervised} {act : Act} {f f' : Finish}
  {result result' : Option (Except Error Unit)}

theorem Reachable.trans (reached : origin.Reachable s) (further : s.Reachable later) :
    origin.Reachable later := by
  induction further with
  | start => exact reached
  | next _ acted ih => exact ih.next acted

theorem Polls.reachable {source : Source} {polled : List TipAnswer}
    (polls : origin.Polls source polled s) : origin.Reachable s := by
  induction polls with
  | start => exact .start
  | next _ _ acted reached => exact reached.next acted

theorem Reachable.acts {acts : List Act} (acted : acts.foldlM act? origin = some s) :
    origin.Reachable s :=
  foldlM_keeps (fun _ _ _ _ reached step => reached.next step) .start acted

theorem Ends.ending_eq (ends : s.Ends act f result) : f.ending = result := by
  cases ends <;> rfl

theorem Ends.self (ends : s.Ends act f result) : s.Ends act f f.ending := by
  rw [ends.ending_eq]
  exact ends

theorem ends_poll_iff {answer : TipAnswer} :
    s.Ends (.poll answer) f result ↔
      ∃ how, s.pipeline.poll answer = .ends how ∧ f = .follower how ∧ f.ending = result := by
  constructor
  · intro ends
    cases ends with
    | statusFailed e => exact ⟨.failed e, rfl, rfl, rfl⟩
    | @tipRegressed current below =>
      have polled : s.pipeline.poll (.height current) =
          .ends (.failed (.tipRegressed s.pipeline.follower.watermark current)) := by
        rw [Pipeline.poll_height, if_pos below]
      exact ⟨_, polled, rfl, rfl⟩
    | pollCrashed => exact ⟨.crashed, rfl, rfl, rfl⟩
  · rintro ⟨how, polled, rfl, rfl⟩
    cases answer with
    | height current =>
      rw [Pipeline.poll_height] at polled
      by_cases below : current < s.pipeline.follower.watermark
      · simp only [if_pos below, Pipeline.Step.ends.injEq] at polled
        rw [← polled]
        exact .tipRegressed below
      · simp only [if_neg below] at polled
        contradiction
    | failed e =>
      cases polled
      exact .statusFailed e
    | crashed =>
      cases polled
      exact Ends.pollCrashed.self

theorem ends_scan_iff :
    s.Ends .scan f result ↔
      ∃ how, s.pipeline.scan = .ends how ∧ f = .scanner how ∧ f.ending = result := by
  constructor
  · intro ends
    cases ends with
    | @queryFailed window windows e next failed =>
      have scanned : s.pipeline.scan = .ends (.failed e) := by
        simp only [Pipeline.scan, next, GapScanner.scanWindow, failed]
      exact ⟨.failed e, scanned, rfl, rfl⟩
    | scanDone passed => exact ⟨.done, (Trace.scan_eq_done_iff s.pipeline).mpr passed, rfl, rfl⟩
  · rintro ⟨how, scanned, rfl, rfl⟩
    unfold Pipeline.scan at scanned
    split at scanned
    next passed =>
      cases scanned
      exact .scanDone passed
    next window windows next =>
      unfold GapScanner.scanWindow at scanned
      cases failed : s.pipeline.db.missingHeights window.min window.max
        s.pipeline.scanner.windowSize with
      | error e =>
        simp only [failed, Pipeline.Step.ends.injEq] at scanned
        rw [← scanned]
        exact .queryFailed next failed
      | ok heights =>
        simp only [failed] at scanned
        contradiction

theorem Ends.unique (ends : s.Ends act f result) (ends' : s.Ends act f' result') : f' = f := by
  cases act with
  | poll answer =>
    obtain ⟨how, polled, rfl, -⟩ := ends_poll_iff.mp ends
    obtain ⟨how', polled', rfl, -⟩ := ends_poll_iff.mp ends'
    rw [polled] at polled'
    cases polled'
    rfl
  | scan =>
    obtain ⟨how, scanned, rfl, -⟩ := ends_scan_iff.mp ends
    obtain ⟨how', scanned', rfl, -⟩ := ends_scan_iff.mp ends'
    rw [scanned] at scanned'
    cases scanned'
    rfl
  | crashScan => cases ends; cases ends'; rfl
  | dispatch source => cases ends; cases ends'; rfl
  | join task => cases ends
  | plantFailure height position => cases ends
  | refuse query reason => cases ends

theorem act?_eq_some_iff : s.act? act = some s' ↔ s.result? = none ∧ s.step? act = some s' :=
  Option.ite_none_right_eq_some

theorem report_of_gone (gone : s.receiver.send? = none) (dispatched : DispatchEvent × Pipeline) :
    s.report dispatched =
      { s with pipeline := dispatched.2, events := s.events ++ [dispatched.1] }.finish
        (.consumer (.ok ())) := by
  simp only [report, gone]

theorem report_of_taken {receiver : Receiver} (taken : s.receiver.send? = some receiver)
    (dispatched : DispatchEvent × Pipeline) :
    s.report dispatched =
      { s with pipeline := dispatched.2, receiver, events := s.events ++ [dispatched.1] } := by
  simp only [report, taken]

/-- A step sees the end of a task, or ends one that was running, or ends none. -/
theorem act?_cases (acted : s.act? act = some s') :
    (∃ task f, act = .join task ∧ s.ended? task = some f ∧ s' = s.join f) ∨
    s'.joined = s.joined ∧ s'.awaitsScanner = s.awaitsScanner ∧
      ((∃ f, s.Ends act f f.ending ∧ s.runs f.task = true ∧ s'.finished = s.finished ++ [f]) ∨
        (∀ f result, ¬s.Ends act f result) ∧ s'.finished = s.finished) := by
  have stepped := (act?_eq_some_iff.mp acted).2
  cases act with
  | poll answer =>
    obtain ⟨runs, ⟨⟩⟩ := Option.ite_none_right_eq_some.mp stepped
    cases polled : s.pipeline.poll answer with
    | goesOn pipeline =>
      refine .inr ⟨rfl, rfl, .inr ⟨fun f result ends => ?_, rfl⟩⟩
      obtain ⟨how, ended, -⟩ := ends_poll_iff.mp ends
      rw [polled] at ended
      contradiction
    | ends how =>
      exact .inr ⟨rfl, rfl, .inl ⟨_, ends_poll_iff.mpr ⟨how, polled, rfl, rfl⟩, runs, rfl⟩⟩
  | scan =>
    obtain ⟨runs, ⟨⟩⟩ := Option.ite_none_right_eq_some.mp stepped
    cases scanned : s.pipeline.scan with
    | goesOn pipeline =>
      refine .inr ⟨rfl, rfl, .inr ⟨fun f result ends => ?_, rfl⟩⟩
      obtain ⟨how, ended, -⟩ := ends_scan_iff.mp ends
      rw [scanned] at ended
      contradiction
    | ends how =>
      exact .inr ⟨rfl, rfl, .inl ⟨_, ends_scan_iff.mpr ⟨how, scanned, rfl, rfl⟩, runs, rfl⟩⟩
  | crashScan =>
    obtain ⟨runs, ⟨⟩⟩ := Option.ite_none_right_eq_some.mp stepped
    exact .inr ⟨rfl, rfl, .inl ⟨_, Ends.scanCrashed.self, runs, rfl⟩⟩
  | dispatch source =>
    obtain ⟨runs, mapped⟩ := Option.ite_none_right_eq_some.mp stepped
    obtain ⟨dispatched, -, rfl⟩ := Option.map_eq_some_iff.mp mapped
    cases sent : s.receiver.send? with
    | none =>
      rw [report_of_gone sent]
      exact .inr ⟨rfl, rfl, .inl ⟨_, .receiverGone source sent, runs, rfl⟩⟩
    | some receiver =>
      rw [report_of_taken sent]
      refine .inr ⟨rfl, rfl, .inr ⟨fun f result ends => ?_, rfl⟩⟩
      cases ends with
      | receiverGone _ gone =>
        rw [sent] at gone
        contradiction
  | join task =>
    obtain ⟨f, ended, rfl⟩ := Option.map_eq_some_iff.mp stepped
    exact .inl ⟨task, f, rfl, ended, rfl⟩
  | plantFailure height position =>
    cases stepped
    refine .inr ⟨rfl, rfl, .inr ⟨fun f result ends => ?_, rfl⟩⟩
    cases ends
  | refuse query reason =>
    cases stepped
    refine .inr ⟨rfl, rfl, .inr ⟨fun f result ends => ?_, rfl⟩⟩
    cases ends

theorem Reachable.finished_prefix (reached : s.Reachable later) :
    s.finished <+: later.finished := by
  induction reached with
  | start => exact List.prefix_rfl
  | next _ acted ih =>
    rcases act?_cases acted with ⟨task, f, -, -, rfl⟩ | ⟨-, -, ⟨f, -, -, more⟩ | ⟨-, same⟩⟩
    · exact ih
    · rw [more]
      exact ih.trans (List.prefix_append ..)
    · rw [same]
      exact ih

theorem Ends.mem_finished (ends : s.Ends act f result) (acted : s.act? act = some s') :
    f ∈ s'.finished := by
  rcases act?_cases acted with ⟨task, f, rfl, -⟩ | ⟨-, -, ⟨f', ends', -, more⟩ | ⟨none, -⟩⟩
  · cases ends
  · rw [more, ends.unique ends']
    exact List.mem_append_right _ (List.mem_singleton.mpr rfl)
  · exact absurd ends (none f result)

/-- What is true of the tasks of a run. -/
structure Sound (origin s : Supervised) : Prop where
  distinct : (s.finished.map Finish.task).Nodup
  caused : ∀ f ∈ s.finished, ∃ earlier act next, origin.Reachable earlier ∧
    earlier.act? act = some next ∧ earlier.Ends act f f.ending ∧ next.Reachable s
  seen : ∀ f ∈ s.joined, f ∈ s.finished
  order : s.joined = [] ∧ s.awaitsScanner = true ∨
    s.joined = [.scanner .done] ∧ s.awaitsScanner = false ∨
    ∃ f, f.ending.isSome = true ∧ (s.joined = [f] ∨ s.joined = [.scanner .done, f])

theorem ended?_eq_some {task : Task} (ended : s.ended? task = some f) :
    f ∈ s.finished ∧ f.task = task ∧ (task = .scanner → s.awaitsScanner = true) := by
  obtain ⟨awaited, found⟩ := Option.ite_none_left_eq_some.mp ended
  have own := List.find?_some found
  refine ⟨List.mem_of_find?_eq_some found, of_decide_eq_true own, fun scanner => ?_⟩
  exact Bool.of_not_eq_false fun unawaited => awaited ⟨scanner, unawaited⟩

theorem result?_of_order (either : s.joined = [f] ∨ s.joined = [.scanner .done, f]) :
    s.result? = f.ending := by
  rw [result?]
  rcases either with one | two
  · rw [one]
    exact supervise?_append (rfl : supervise? [] = none) f
  · rw [two]
    exact supervise?_append (rfl : supervise? [.scanner .done] = none) f

theorem Sound.order_of_running (sound : Sound origin s) (running : s.result? = none) :
    s.joined = [] ∧ s.awaitsScanner = true ∨
      s.joined = [.scanner .done] ∧ s.awaitsScanner = false := by
  rcases sound.order with none | done | ⟨f, exits, either⟩
  · exact .inl none
  · exact .inr done
  · have ended : f.ending = none := (result?_of_order either).symm.trans running
    rw [ended] at exits
    contradiction

theorem Sound.next (sound : Sound origin s) (reached : origin.Reachable s)
    (acted : s.act? act = some s') : Sound origin s' := by
  have running : s.result? = none := (act?_eq_some_iff.mp acted).1
  have before : ∀ f ∈ s.finished, ∃ earlier act next, origin.Reachable earlier ∧
      earlier.act? act = some next ∧ earlier.Ends act f f.ending ∧ next.Reachable s' := by
    intro f member
    obtain ⟨earlier, act, next, first, ended, ends, further⟩ := sound.caused f member
    exact ⟨earlier, act, next, first, ended, ends, further.next acted⟩
  rcases act?_cases acted with ⟨task, f, -, ended, rfl⟩ |
    ⟨joined, awaits, ⟨f, ends, running, more⟩ | ⟨-, same⟩⟩
  · obtain ⟨member, own, awaited⟩ := ended?_eq_some ended
    refine ⟨sound.distinct, before, ?_, ?_⟩
    · intro g seen
      rcases List.mem_append.mp seen with seen | seen
      · exact sound.seen g seen
      · cases List.mem_singleton.mp seen
        exact member
    · rcases sound.order_of_running running with ⟨none, awaits⟩ | ⟨done, unawaited⟩
      · cases ending : f.ending with
        | none =>
          cases Finish.ending_eq_none_iff.mp ending
          exact .inr (.inl ⟨by rw [join, none]; rfl, by rw [join, awaits]; rfl⟩)
        | some result =>
          exact .inr (.inr ⟨f, by rw [ending]; rfl, .inl (by rw [join, none]; rfl)⟩)
      · have exits : f.ending ≠ none := by
          intro ending
          cases Finish.ending_eq_none_iff.mp ending
          rw [awaited own.symm] at unawaited
          contradiction
        exact .inr (.inr ⟨f, Option.isSome_iff_ne_none.mpr exits,
          .inr (by rw [join, done]; rfl)⟩)
  · refine ⟨?_, fun g member => ?_, fun g seen => ?_, by rw [joined, awaits]; exact sound.order⟩
    · have other : ∀ g ∈ s.finished, g.task ≠ f.task := by
        simpa [runs] using running
      rw [more, List.map_append, List.nodup_append]
      refine ⟨sound.distinct, List.nodup_singleton f.task, fun task member task' last => ?_⟩
      obtain ⟨g, earlier, rfl⟩ := List.mem_map.mp member
      rw [List.mem_singleton.mp last]
      exact other g earlier
    · rw [more] at member
      rcases List.mem_append.mp member with member | member
      · exact before g member
      · cases List.mem_singleton.mp member
        exact ⟨s, act, s', reached, acted, ends, .start⟩
    · rw [more]
      exact List.mem_append_left _ (sound.seen g (joined ▸ seen))
  · refine ⟨?_, ?_, ?_, ?_⟩
    · rw [same]
      exact sound.distinct
    · rw [same]
      exact before
    · rw [same, joined]
      exact sound.seen
    · rw [joined, awaits]
      exact sound.order

theorem Reachable.sound {db : Database} {scanner : GapScanner} {tip : Nat} {receiver : Receiver}
    (reached : (Supervised.start db scanner tip receiver).Reachable s) :
    Sound (Supervised.start db scanner tip receiver) s := by
  induction reached with
  | start => exact ⟨.nil, nofun, nofun, .inl ⟨rfl, rfl⟩⟩
  | next reached acted ih => exact ih.next reached acted

/-- The end of a task can be seen once it has finished, and the run ends with it or goes on. -/
theorem Sound.act?_join (sound : Sound origin s) (running : s.result? = none)
    (member : f ∈ s.finished) (unseen : f ∉ s.joined) :
    ∃ s', s.act? (.join f.task) = some s' ∧ s'.result? = f.ending := by
  have only {g : Finish} (other : g ∈ s.finished) (same : g.task = f.task) : g = f :=
    List.inj_on_of_nodup_map sound.distinct other member same
  have awaited : f.task = .scanner → s.awaitsScanner = true := by
    intro scanner
    rcases sound.order_of_running running with ⟨-, awaits⟩ | ⟨done, -⟩
    · exact awaits
    · have seen : Finish.scanner .done ∈ s.joined := by simp [done]
      rw [only (sound.seen _ seen) scanner.symm] at seen
      contradiction
  have found : s.finished.find? (·.task = f.task) = some f := by
    cases found : s.finished.find? (·.task = f.task) with
    | none => simpa using List.find?_eq_none.mp found f member
    | some g =>
      have own := List.find?_some found
      rw [only (List.mem_of_find?_eq_some found) (of_decide_eq_true own)]
  have ended : s.ended? f.task = some f := by
    rw [ended?, if_neg, found]
    rintro ⟨scanner, unawaited⟩
    rw [awaited scanner] at unawaited
    contradiction
  exact ⟨s.join f, act?_eq_some_iff.mpr ⟨running, by rw [step?, ended]; rfl⟩,
    supervise?_append running f⟩

/-- The run after dispatches that were reported. -/
def afterDispatches (s : Supervised) (events : List DispatchEvent) (db : Database)
    (receiver : Receiver) : Supervised :=
  { s with
    pipeline := { s.pipeline with db, queue := s.pipeline.queue.drop events.length }
    receiver
    events := s.events ++ events }

section Polls

variable {source : Source} {polled : List TipAnswer}

theorem Polls.step (polls : origin.Polls source polled s) (running : s.result? = none)
    (own : act.MadeFrom source) (stepped : s.step? act = some s') :
    origin.Polls source (polled ++ act.answers) s' :=
  polls.next own (act?_eq_some_iff.mpr ⟨running, stepped⟩)

theorem Polls.poll (polls : origin.Polls source polled s) (running : s.result? = none)
    (runs : s.runs .follower = true) (answer : TipAnswer) :
    origin.Polls source (polled ++ [answer]) (s.take .follower (s.pipeline.poll answer)) := by
  have stepped : s.step? (.poll answer) = some (s.take .follower (s.pipeline.poll answer)) := by
    rw [step?, if_pos runs]
  exact polls.step running (show (Act.poll answer).MadeFrom source from trivial) stepped

theorem Polls.scan (polls : origin.Polls source polled s) (running : s.result? = none)
    (runs : s.runs .scanner = true) :
    origin.Polls source polled (s.take .scanner s.pipeline.scan) := by
  have stepped : s.step? .scan = some (s.take .scanner s.pipeline.scan) := by
    rw [step?, if_pos runs]
  have scanned := polls.step running (show Act.scan.MadeFrom source from trivial) stepped
  rwa [Act.answers, List.append_nil] at scanned

theorem Polls.join {task : Task} (polls : origin.Polls source polled s)
    (running : s.result? = none) (ended : s.ended? task = some f) :
    origin.Polls source polled (s.join f) := by
  have stepped : s.step? (.join task) = some (s.join f) := by
    rw [step?, ended]
    rfl
  have joined := polls.step running (show (Act.join task).MadeFrom source from trivial) stepped
  rwa [Act.answers, List.append_nil] at joined

/-- A consumer that dispatches what is queued takes one step after the other. -/
theorem Polls.dispatchTo (polls : origin.Polls source polled s) (running : s.result? = none)
    (runs : s.runs .consumer = true) :
    let did := s.pipeline.db.dispatchTo source s.receiver s.pipeline.queue.toList
    ∃ receiver, origin.Polls source polled (match did.2.2 with
      | none => (s.afterDispatches did.1 did.2.1 receiver).finish (.consumer (.ok ()))
      | some receiver => s.afterDispatches did.1 did.2.1 receiver) := by
  generalize queued : s.pipeline.queue.toList = heights
  induction heights generalizing s with
  | nil =>
    have same : s.afterDispatches [] s.pipeline.db s.receiver = s := by
      simp only [afterDispatches, List.length_nil, Queue.drop_zero, List.append_nil]
    refine ⟨s.receiver, ?_⟩
    show origin.Polls source polled (s.afterDispatches [] s.pipeline.db s.receiver)
    rw [same]
    exact polls
  | cons height heights ih =>
    let dispatched := s.pipeline.db.dispatch source height
    let left := { s.pipeline with db := dispatched.2, queue := s.pipeline.queue.drop 1 }
    have stepped : s.step? (.dispatch source) = some (s.report (dispatched.1, left)) := by
      rw [step?, if_pos runs, Pipeline.dispatch_of_cons queued]
      rfl
    have reported := polls.step running (show (Act.dispatch source).MadeFrom source from rfl)
      stepped
    rw [Act.answers, List.append_nil] at reported
    rw [Database.dispatchTo]
    cases sent : s.receiver.send? with
    | none =>
      rw [report_of_gone sent] at reported
      exact ⟨s.receiver, reported⟩
    | some receiver =>
      rw [report_of_taken sent] at reported
      have rest := ih reported running runs (by
        show (s.pipeline.queue.drop 1).toList = heights
        rw [Queue.toList_drop, queued]
        rfl)
      simp only [afterDispatches, left, dispatched, Queue.drop_drop, List.append_assoc] at rest ⊢
      simpa only [List.length_cons, Nat.add_comm 1, List.singleton_append] using rest

end Polls

theorem ended?_finish (runs : s.runs f.task = true)
    (awaited : f.task = .scanner → s.awaitsScanner = true) :
    (s.finish f).ended? f.task = some f := by
  have none : s.finished.find? (·.task = f.task) = none := by
    rw [List.find?_eq_none]
    simpa [Supervised.runs] using runs
  rw [ended?, if_neg, finish, List.find?_append, none]
  · simp
  · rintro ⟨scanner, unawaited⟩
    rw [finish, awaited scanner] at unawaited
    contradiction

theorem ended?_finish_of_some {task : Task} (ended : s.ended? task = some f) (f' : Finish) :
    (s.finish f').ended? task = some f := by
  obtain ⟨awaited, found⟩ := Option.ite_none_left_eq_some.mp ended
  rw [ended?, finish, if_neg awaited, List.find?_append, found, Option.some_or]

/-- What holds wherever the steps of a run lead to. -/
structure Contained (origin s : Supervised) : Prop where
  /-- A dispatch ends no task, whatever becomes of its height, while the receiver takes the
  event. -/
  dispatched : ∀ source, s.result? = none → s.runs .consumer = true →
    s.pipeline.queue.isEmpty = false → ∃ next, s.act? (.dispatch source) = some next ∧
      (s.receiver.send? = none ∨ next.finished = s.finished ∧ next.result? = none)
  /-- The run ends with the first end that is seen, that of a scanner that is done aside. -/
  returned : ∀ result, s.result? = some result → ∃ earlier act next f,
    origin.Reachable earlier ∧ earlier.act? act = some next ∧ earlier.Ends act f (some result) ∧
      next.Reachable s ∧ (s.joined = [f] ∨ s.joined = [.scanner .done, f])
  /-- It ends well only if a dispatch found the receiver gone. -/
  well : s.result? = some (.ok ()) → ∃ earlier source next, origin.Reachable earlier ∧
    earlier.act? (.dispatch source) = some next ∧ earlier.receiver.send? = none ∧
      next.Reachable s
  /-- Each end of a task can be the one that is seen first, and the run ends with what it says. -/
  seen : ∀ act next f result, s.act? act = some next → s.Ends act f result →
    ∀ later, next.Reachable later → later.result? = none → f ∉ later.joined →
      ∃ after, later.act? (.join f.task) = some after ∧ after.result? = result
  /-- A scanner that is done is not waited for again. -/
  once : Finish.scanner .done ∈ s.joined → s.act? (.join .scanner) = none

theorem exists_dispatch (running : s.result? = none) (runs : s.runs .consumer = true)
    (queued : s.pipeline.queue.isEmpty = false) (source : Source) :
    ∃ next, s.act? (.dispatch source) = some next ∧
      (s.receiver.send? = none ∨ next.finished = s.finished ∧ next.result? = none) := by
  cases heights : s.pipeline.queue.toList with
  | nil =>
    rw [Queue.isEmpty_iff.mpr heights] at queued
    contradiction
  | cons height rest =>
    obtain ⟨dispatched, taken⟩ : ∃ dispatched, s.pipeline.dispatch source = some dispatched :=
      ⟨_, Pipeline.dispatch_of_cons heights⟩
    have stepped : s.step? (.dispatch source) = some (s.report dispatched) := by
      rw [step?, if_pos runs, taken]
      rfl
    refine ⟨_, act?_eq_some_iff.mpr ⟨running, stepped⟩, ?_⟩
    cases sent : s.receiver.send? with
    | none => exact .inl rfl
    | some receiver =>
      rw [report_of_taken sent]
      exact .inr ⟨rfl, running⟩

theorem Sound.returned (sound : Sound origin s) {result : Except Error Unit}
    (ended : s.result? = some result) : ∃ earlier act next f,
      origin.Reachable earlier ∧ earlier.act? act = some next ∧
        earlier.Ends act f (some result) ∧ next.Reachable s ∧
          (s.joined = [f] ∨ s.joined = [.scanner .done, f]) := by
  rcases sound.order with ⟨none, -⟩ | ⟨done, -⟩ | ⟨f, exits, either⟩
  · rw [result?, none] at ended
    contradiction
  · rw [result?, done] at ended
    contradiction
  · have member : f ∈ s.joined := by
      rcases either with one | two
      · simp [one]
      · simp [two]
    have ending : f.ending = some result := (result?_of_order either).symm.trans ended
    obtain ⟨earlier, act, next, reached, acted, ends, further⟩ :=
      sound.caused f (sound.seen f member)
    rw [ending] at ends
    exact ⟨earlier, act, next, f, reached, acted, ends, further, either⟩

theorem Sound.act?_join_scanner (sound : Sound origin s)
    (seen : Finish.scanner .done ∈ s.joined) : s.act? (.join .scanner) = none := by
  cases acted : s.act? (.join .scanner) with
  | none => rfl
  | some s' =>
    obtain ⟨running, stepped⟩ := act?_eq_some_iff.mp acted
    obtain ⟨f, ended, -⟩ := Option.map_eq_some_iff.mp stepped
    have awaits : s.awaitsScanner = true := (ended?_eq_some ended).2.2 rfl
    rcases sound.order_of_running running with ⟨none, -⟩ | ⟨-, unawaited⟩
    · rw [none] at seen
      exact absurd seen List.not_mem_nil
    · rw [awaits] at unawaited
      contradiction

theorem Reachable.contained {db : Database} {scanner : GapScanner} {tip : Nat}
    {receiver : Receiver} (reached : (Supervised.start db scanner tip receiver).Reachable s) :
    Contained (Supervised.start db scanner tip receiver) s where
  dispatched source running runs queued := exists_dispatch running runs queued source
  returned result ended := reached.sound.returned ended
  well ended := by
    obtain ⟨earlier, act, next, f, before, acted, ends, further, -⟩ :=
      reached.sound.returned ended
    cases ends with
    | receiverGone source gone => exact ⟨earlier, source, next, before, acted, gone, further⟩
  seen act next f result acted ends later further running unseen := by
    have sound := ((reached.next acted).trans further).sound
    have member : f ∈ later.finished := further.finished_prefix.subset (ends.mem_finished acted)
    rw [← ends.ending_eq]
    exact sound.act?_join running member unseen
  once seen := reached.sound.act?_join_scanner seen

end Supervised

end BlockIndexer
