import BlockIndexer.Pipeline.Basic

/-! A pipeline on a clock. The follower polls and the scanner looks at a window at time zero and
again after a fixed time; the consumer wakes after a fixed time and then deals with everything in
the queue at once. At one instant the consumer comes first, then the follower, then the scanner.
The run ends when the tasks that have finished say so. -/

namespace BlockIndexer

/-- The times, in milliseconds, between two polls, two windows and two wakes. -/
structure Intervals where
  poll : Nat
  pause : Nat
  backoff : Nat
  deriving DecidableEq, Repr

/-- What the consumer does when it wakes. -/
inductive Consumer where
  | dispatch (source : Source) (receiver : Receiver)
  | handOut (receiver : Receiver)
  | finish (result : Except Error Unit)

structure Timeline where
  pipeline : Pipeline
  intervals : Intervals
  /-- The node's answers still to come. -/
  answers : List TipAnswer
  consumer : Consumer
  nextPoll : Nat
  /-- When the scanner looks at a window, if it is not through with them. -/
  nextScan : Option Nat
  nextWake : Nat
  /-- The events of the dispatches so far. -/
  events : List DispatchEvent
  /-- The heights handed out so far. -/
  heights : List Nat
  /-- The tasks that have finished, the first one first. -/
  finished : List Finish

namespace Timeline

def start (pipeline : Pipeline) (intervals : Intervals) (answers : List TipAnswer)
    (consumer : Consumer) (nextWake : Nat) : Timeline :=
  ⟨pipeline, intervals, answers, consumer, 0, some 0, nextWake, [], [], []⟩

/-- How the run ended, if it has. -/
def ending (t : Timeline) : Option (Except Error Unit) := supervise? t.finished

def finish (t : Timeline) (f : Finish) : Timeline := { t with finished := t.finished ++ [f] }

/-- The consumer deals with everything in the queue. -/
def consume (t : Timeline) : Timeline :=
  match t.consumer with
  | .dispatch source receiver =>
    let queue := t.pipeline.queue
    let (events, db, receiver) := t.pipeline.db.dispatchTo source receiver queue.toList
    let t := { t with
      pipeline := { t.pipeline with db, queue := queue.drop events.length }
      events := t.events ++ events }
    match receiver with
    | none => t.finish (.consumer (.ok ()))
    | some receiver => { t with consumer := .dispatch source receiver }
  | .handOut receiver =>
    let queue := t.pipeline.queue
    let (heights, receiver) := receiver.offer queue.toList
    let t := { t with heights := t.heights ++ heights }
    match receiver with
    | none =>
      { t with pipeline := { t.pipeline with queue := queue.drop (heights.length + 1) } }.finish
        (.consumer (.ok ()))
    | some receiver =>
      { t with
        pipeline := { t.pipeline with queue := queue.drop heights.length }
        consumer := .handOut receiver }
  | .finish result => t.finish (.consumer result)

/-- The consumer wakes and goes back to sleep, for a millisecond at least. -/
def wake (t : Timeline) : Timeline :=
  { t.consume with nextWake := t.nextWake + max 1 t.intervals.backoff }

/-- The scanner looks at a window at time `now`. -/
def scan (t : Timeline) (now : Nat) : Timeline :=
  match t.pipeline.scan with
  | .goesOn pipeline => { t with pipeline, nextScan := some (now + t.intervals.pause) }
  | .ends how => { t with nextScan := none }.finish (.scanner how)

def poll (t : Timeline) (answer : TipAnswer) : Timeline :=
  match t.pipeline.poll answer with
  | .goesOn pipeline => { t with pipeline, nextPoll := t.nextPoll + t.intervals.poll }
  | .ends how => t.finish (.follower how)

/-- Whether the consumer is the next to act. -/
def wakeIsNext (t : Timeline) : Bool := t.nextWake ≤ t.nextPoll && t.nextScan.all (t.nextWake ≤ ·)

/-- When the scanner acts, if it does so before the follower. -/
def scanBeforePoll? (t : Timeline) : Option Nat := t.nextScan.filter (· < t.nextPoll)

/-- The steps that the scanner has before it. -/
def scansLeft (t : Timeline) : Nat := t.nextScan.elim 0 fun _ => t.pipeline.windows.remaining + 1

theorem scansLeft_scan {t : Timeline} {now : Nat} (h : t.nextScan = some now) :
    (t.scan now).scansLeft < t.scansLeft := by
  have hl : t.scansLeft = t.pipeline.windows.remaining + 1 := by simp [scansLeft, h]
  rw [hl]
  unfold scan
  split
  next pipeline hs =>
    have hr : t.pipeline.windows.remaining = pipeline.windows.remaining + 1 := by
      unfold Pipeline.scan at hs
      split at hs
      next => simp at hs
      next window windows hn =>
        have := ScanWindows.remaining_of_next? hn
        split at hs
        · simp at hs
        · simp only [Pipeline.Step.goesOn.injEq] at hs
          rw [← hs]
          exact this
    simp only [scansLeft, Option.elim_some]
    omega
  next => simp [finish, scansLeft]

@[simp] theorem answers_scan (t : Timeline) (now : Nat) : (t.scan now).answers = t.answers := by
  unfold scan
  split <;> rfl

@[simp] theorem answers_poll (t : Timeline) (answer : TipAnswer) :
    (t.poll answer).answers = t.answers := by
  unfold poll
  split <;> rfl

@[simp] theorem answers_consume (t : Timeline) : t.consume.answers = t.answers := by
  unfold consume
  split
  next => dsimp only; split <;> rfl
  next => dsimp only; split <;> rfl
  next => rfl

@[simp] theorem nextPoll_consume (t : Timeline) : t.consume.nextPoll = t.nextPoll := by
  unfold consume
  split
  next => dsimp only; split <;> rfl
  next => dsimp only; split <;> rfl
  next => rfl

@[simp] theorem scansLeft_consume (t : Timeline) : t.consume.scansLeft = t.scansLeft := by
  unfold consume
  split
  next => dsimp only; split <;> rfl
  next => dsimp only; split <;> rfl
  next => rfl

/-- The scanner acts as long as it is due at time `now`. -/
def scanDue (now : Nat) (t : Timeline) : Timeline :=
  match _h : t.nextScan with
  | none => t
  | some due => if due ≤ now then scanDue now (t.scan due) else t
termination_by t.scansLeft
decreasing_by exact scansLeft_scan _h

@[simp] theorem answers_scanDue (now : Nat) (t : Timeline) :
    (scanDue now t).answers = t.answers := by
  fun_induction scanDue now t with
  | case1 => rfl
  | case2 t due h le ih => rw [ih, answers_scan]
  | case3 => rfl

def run (t : Timeline) : Timeline :=
  if t.ending.isSome then t
  else if _hw : t.wakeIsNext then run t.wake
  else
    match _hs : t.scanBeforePoll? with
    | some due => run (t.scan due)
    | none =>
      match _ha : t.answers with
      | [] => (t.poll .exhausted).scanDue t.nextPoll
      | answer :: answers => run (({ t with answers }.poll answer).scanDue t.nextPoll)
termination_by (t.answers.length, t.scansLeft, t.nextPoll + 1 - t.nextWake)
decreasing_by
  · have hs : t.wake.scansLeft = t.scansLeft := scansLeft_consume t
    rw [hs]
    simp only [wake, answers_consume, nextPoll_consume]
    simp only [wakeIsNext, Bool.and_eq_true, decide_eq_true_eq] at _hw
    refine Prod.Lex.right _ (Prod.Lex.right _ ?_)
    omega
  · rw [answers_scan]
    exact Prod.Lex.right _ (Prod.Lex.left _ _ (scansLeft_scan (Option.filter_eq_some_iff.1 _hs).1))
  · simp only [answers_scanDue, answers_poll, _ha]
    exact Prod.Lex.left _ _ (by simp)

/-- How the run ended; one that has not ended counts as well. -/
def result (t : Timeline) : Except Error Unit := t.ending.getD (.ok ())

end Timeline

end BlockIndexer
