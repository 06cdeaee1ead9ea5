import BlockIndexer.Pipeline.Timeline

/-! Whole runs. A run that polls dispatches the heights, a run that only produces hands them out;
both ask the node for the tip to start from, after the store has said how far it is. -/

namespace BlockIndexer

/-- What a run leaves behind. -/
structure FinishedRun where
  result : Except Error Unit
  events : List DispatchEvent
  heights : List Nat
  db : Database
  queue : Queue

namespace FinishedRun

def ofTimeline (t : Timeline) : FinishedRun :=
  ⟨t.result, t.events, t.heights, t.pipeline.db, t.pipeline.queue⟩

/-- A run that failed before it started. -/
def notStarted (db : Database) (e : Error) : FinishedRun := ⟨.error e, [], [], db, .empty⟩

end FinishedRun

namespace Pipeline

/-- Asks the store and then the node, and starts at the tip that the node reports. -/
def startFrom (db : Database) (scanner : GapScanner) (answers : List TipAnswer) :
    Except Error (Pipeline × List TipAnswer) := do
  let _ ← db.maxHeight?
  let tip ← (TipAnswer.next answers).1.toExcept
  return (start db scanner tip, (TipAnswer.next answers).2)

/-- Runs the producers beside a consumer that looks at the queue right away. -/
def runWith (consumer : Consumer) (db : Database) (scanner : GapScanner) (intervals : Intervals)
    (answers : List TipAnswer) : FinishedRun :=
  match startFrom db scanner answers with
  | .error e => .notStarted db e
  | .ok (p, answers) => .ofTimeline (Timeline.start p intervals answers consumer 0).run

/-- Dispatches the heights that the producers find. -/
def runPolling (source : Source) (receiver : Receiver) :=
  runWith (.dispatch source receiver)

/-- Hands out the heights that the producers find, and stores nothing. -/
def runHeights (receiver : Receiver) := runWith (.handOut receiver)

/-- Runs the producers from a tip beside a consumer that ends after some time. -/
def supervise (result : Except Error Unit) (after : Nat) (db : Database) (scanner : GapScanner)
    (intervals : Intervals) (tip : Nat) (answers : List TipAnswer) : FinishedRun :=
  .ofTimeline (Timeline.start (start db scanner tip) intervals answers (.finish result) after).run

end Pipeline

end BlockIndexer
