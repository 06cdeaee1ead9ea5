import BlockIndexer.Error

/-! Supervising tasks. The follower and the scanner run beside a consumer. The first task that
finishes ends the run and gives its result; only a scanner that is through with its windows changes
nothing. -/

namespace BlockIndexer

inductive TaskEnd where
  | done
  | failed (e : Error)
  | crashed
  deriving DecidableEq, Repr

namespace TaskEnd

/-- The result of a task as the one who waits for it sees it. -/
def result (task : String) : TaskEnd → Except Error Unit
  | .done => .ok ()
  | .failed e => .error e
  | .crashed => .error (.taskFailed task)

end TaskEnd

/-- A task that has finished. -/
inductive Finish where
  | follower (how : TaskEnd)
  | scanner (how : TaskEnd)
  | consumer (result : Except Error Unit)

namespace Finish

/-- What the run ends with because of this task, if it does. The follower has no work that could be
done, so its end is always a failure. -/
def ending : Finish → Option (Except Error Unit)
  | .follower how =>
    match how.result "tip follower" with
    | .error e => some (.error e)
    | .ok () => some (.error (.aborted "tip follower stopped"))
  | .scanner how =>
    match how.result "gap scanner" with
    | .error e => some (.error e)
    | .ok () => none
  | .consumer result => some result

end Finish

/-- What the run ends with when tasks finish in this order, if it has ended. -/
def supervise? (finished : List Finish) : Option (Except Error Unit) :=
  finished.findSome? Finish.ending

end BlockIndexer
