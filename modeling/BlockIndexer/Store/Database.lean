import BlockIndexer.Store.Basic

/-! A store behind queries that may be refused. A refused query fails before it reaches the store,
so nothing is read or written. -/

namespace BlockIndexer

inductive Query where
  | insertBlock
  | missingHeights
  | maxHeight
  | maxSequence
  deriving DecidableEq, Repr

structure Database where
  store : Store
  /-- The queries that fail, with the reason. -/
  refusals : List (Query × String)
  deriving Repr

namespace Database

def ofStore (store : Store) : Database := ⟨store, []⟩

/-- Makes a query fail for a reason, or work again. -/
def refuse (db : Database) (query : Query) (reason : Option String) : Database :=
  let others := db.refusals.filter (·.1 ≠ query)
  { db with refusals := reason.elim others fun reason => (query, reason) :: others }

/-- The answer of a query, or the error of its refusal. -/
def ask (db : Database) (query : Query) (answer : α) : Except Error α :=
  match db.refusals.lookup query with
  | some reason => .error (.storage reason)
  | none => .ok answer

def insert (db : Database) (b : Block) : Except Error Outcome × Database :=
  match db.ask .insertBlock () with
  | .error e => (.error e, db)
  | .ok () =>
    let (outcome, store) := db.store.insert b
    (outcome, { db with store })

def missingHeights (db : Database) (min max limit : Nat) : Except Error (List Nat) :=
  db.ask .missingHeights (db.store.missingHeights min max limit)

def maxHeight? (db : Database) : Except Error (Option Nat) := db.ask .maxHeight db.store.maxHeight?

def maxSequence? (db : Database) : Except Error (Option Nat) :=
  db.ask .maxSequence db.store.maxSequence?

end Database

end BlockIndexer
