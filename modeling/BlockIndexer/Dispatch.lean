import BlockIndexer.Queue
import BlockIndexer.Receiver
import BlockIndexer.Source
import BlockIndexer.Store.Database

/-! Dispatching heights. A dispatch takes the highest height from the queue, asks the source for its
block and stores it. It always ends in one event; a height that fails is dropped, not retried. -/

namespace BlockIndexer

/-- What became of a height or of a delivery. -/
inductive DispatchEvent where
  | indexed (height : Nat) (outcome : Outcome)
  | alreadyIndexed (height : Nat)
  | dropped (height : Nat) (cause : Error)
  | undecodable (sequence : Nat)
  deriving DecidableEq, Repr

/-- The height that an event reports as stored. -/
def DispatchEvent.storedHeight? : DispatchEvent → Option Nat
  | .indexed height _ | .alreadyIndexed height => some height
  | .dropped _ _ | .undecodable _ => none

namespace Database

/-- Stores a block and reports it under a height. -/
def store? (db : Database) (height : Nat) (b : Block) : DispatchEvent × Database :=
  match db.insert b with
  | (.error e, db) => (.dropped height e, db)
  | (.ok outcome, db) =>
    if outcome.isAlreadyIndexed then (.alreadyIndexed height, db)
    else (.indexed height outcome, db)

/-- Fetches and stores the block at a height. -/
def dispatch (db : Database) (source : Source) (height : Nat) : DispatchEvent × Database :=
  match source height with
  | .error e => (.dropped height e, db)
  | .ok b => db.store? height b

def dispatchNext? (db : Database) (source : Source) (q : Queue) :
    Option (DispatchEvent × Database × Queue) :=
  q.pop?.map fun (height, q) =>
    let (event, db) := db.dispatch source height
    (event, db, q)

/-- Dispatches heights, highest first, one event for each. -/
def dispatchAll (db : Database) (source : Source) : List Nat → List DispatchEvent × Database
  | [] => ([], db)
  | height :: heights =>
    let (event, db) := db.dispatch source height
    let (events, db) := dispatchAll db source heights
    (event :: events, db)

/-- Dispatches heights until one of them finds the receiver gone: the events, that last one
included, the database, and the receiver unless it is gone. -/
def dispatchTo (db : Database) (source : Source) (receiver : Receiver) :
    List Nat → List DispatchEvent × Database × Option Receiver
  | [] => ([], db, some receiver)
  | height :: heights =>
    let (event, db) := db.dispatch source height
    match receiver.send? with
    | none => ([event], db, none)
    | some receiver =>
      let (events, db, receiver) := dispatchTo db source receiver heights
      (event :: events, db, receiver)

/-- Dispatches until the queue is empty. -/
def drain (db : Database) (source : Source) (q : Queue) : List DispatchEvent × Database :=
  db.dispatchAll source q.toList

end Database

end BlockIndexer
