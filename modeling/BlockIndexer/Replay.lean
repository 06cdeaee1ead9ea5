import BlockIndexer.Block.Decode
import BlockIndexer.Dispatch
import BlockIndexer.Feed.Delivery
import BlockIndexer.Receiver

/-! Replaying a log into the store. A run resumes after the greatest sequence that the store holds,
passes over deliveries at or below what it has committed, and stores each block under the sequence
of its delivery. -/

namespace BlockIndexer

structure ReplayReport where
  resumedAt : Nat
  indexed : Nat
  alreadyIndexed : Nat
  dropped : Nat
  redelivered : Nat
  lastSequence : Option Nat
  deriving DecidableEq, Repr

namespace ReplayReport

def start (resumedAt : Nat) : ReplayReport := ⟨resumedAt, 0, 0, 0, 0, none⟩

def skip (report : ReplayReport) : ReplayReport :=
  { report with redelivered := report.redelivered + 1 }

/-- Counts the event of the delivery at a sequence. -/
def count (report : ReplayReport) (sequence : Nat) (event : DispatchEvent) : ReplayReport :=
  let report := { report with lastSequence := some sequence }
  match event with
  | .indexed _ _ => { report with indexed := report.indexed + 1 }
  | .alreadyIndexed _ => { report with alreadyIndexed := report.alreadyIndexed + 1 }
  | .dropped _ _ | .undecodable _ => { report with dropped := report.dropped + 1 }

end ReplayReport

namespace Database

/-- The sequence to ask the log for: one past the greatest that is stored, or `start`. -/
def resumePoint (db : Database) (start : Nat) : Except Error Nat :=
  db.maxSequence?.map fun greatest => greatest.elim start (· + 1)

/-- Decodes a delivery and stores its block under the delivery's sequence. -/
def deliver (db : Database) (d : Delivery) : DispatchEvent × Database :=
  match Block.ofBytes? d.payload with
  | none => (.undecodable d.sequence, db)
  | some b => db.store? b.height.toNat (b.withSequence d.sequence)

end Database

/-- A run between two deliveries. -/
structure Replay where
  db : Database
  report : ReplayReport
  /-- The sequence up to which deliveries count as committed. -/
  committed : Option Nat
  receiver : Receiver
  /-- The events that were taken, the first one first. -/
  events : List DispatchEvent
  deriving Repr

namespace Replay

def start (db : Database) (receiver : Receiver) (resumedAt : Nat) : Replay :=
  ⟨db, .start resumedAt, if resumedAt = 0 then none else some (resumedAt - 1), receiver, []⟩

/-- Whether a delivery lies at or below what is committed. -/
def isCommitted (r : Replay) (d : Delivery) : Bool := r.committed.any (d.sequence ≤ ·)

/-- What is committed after the event of the delivery at a sequence. -/
def committedAfter (committed : Option Nat) (sequence : Nat) (event : DispatchEvent) :
    Option Nat :=
  if event.storedHeight?.isSome then some sequence else committed

/-- Takes the deliveries one after the other until they end or the receiver is gone. -/
def run (r : Replay) : List Delivery → Replay
  | [] => r
  | d :: ds =>
    if r.isCommitted d then run { r with report := r.report.skip } ds
    else
      let (event, db) := r.db.deliver d
      let report := r.report.count d.sequence event
      let committed := committedAfter r.committed d.sequence event
      match r.receiver.send? with
      | none => { r with db, report, committed }
      | some receiver => run ⟨db, report, committed, receiver, r.events ++ [event]⟩ ds

end Replay

/-- Replays a log, given as the deliveries from each sequence on, into the store. -/
def Database.replay (db : Database) (subscribe : Nat → Except Error (List Delivery))
    (start : Nat) (receiver : Receiver) : Except Error Replay := do
  let resumedAt ← db.resumePoint start
  let deliveries ← subscribe resumedAt
  return (Replay.start db receiver resumedAt).run deliveries

end BlockIndexer
