/-! Receivers of what a run reports. A receiver may leave; a run stops when it finds it gone. -/

namespace BlockIndexer

/-- Who takes the reports. One that leaves takes as many as it has room for and is gone for the
next. -/
inductive Receiver where
  | absent
  | staying
  | leaving (room : Nat)
  deriving DecidableEq, Repr

namespace Receiver

/-- The receiver after a report, or nothing if it was gone. -/
def send? : Receiver → Option Receiver
  | .absent => some .absent
  | .staying => some .staying
  | .leaving 0 => none
  | .leaving (room + 1) => some (.leaving room)

/-- Offers items one by one: those it takes, and the receiver after them unless one found it
gone. -/
def offer (receiver : Receiver) : List α → List α × Option Receiver
  | [] => ([], some receiver)
  | a :: as =>
    match receiver.send? with
    | none => ([], none)
    | some receiver =>
      let (taken, receiver) := offer receiver as
      (a :: taken, receiver)

end Receiver

end BlockIndexer
