import BlockIndexer.Row.Mapping

/-! The store of rows. A height is written once, with all rows of its block or none; a transaction
is written once per block and hash. Failures can be planted at transactions, each fires once. -/

namespace BlockIndexer

/-- A transaction with the id that the store gave it. -/
structure StoredTransaction where
  id : Nat
  row : TransactionRow
  deriving Repr

/-- An event with the id of its transaction. -/
structure StoredEvent where
  transaction : Nat
  row : LogRow
  deriving DecidableEq, Repr

/-- What the store did with a block. -/
structure Outcome where
  height : Nat
  blockInserted : Bool
  transactionsInserted : Nat
  transactionsSkipped : Nat
  logsInserted : Nat
  logsSkipped : Nat
  deriving DecidableEq, Repr

namespace Outcome

def alreadyIndexed (height : Nat) : Outcome := ⟨height, false, 0, 0, 0, 0⟩

def inserted (height : Nat) : Outcome := ⟨height, true, 0, 0, 0, 0⟩

def isAlreadyIndexed (o : Outcome) : Bool := !o.blockInserted

end Outcome

/-- The tables: block rows by rising height, the others in the order in which they were written,
and the keys that no two rows of a table share. -/
structure Tables where
  blocks : List (Nat × BlockRow)
  transactions : List StoredTransaction
  transactionKeys : List (Nat × Hash)
  events : List StoredEvent
  eventKeys : List (Nat × Nat)
  deriving Repr

namespace Tables

def empty : Tables := ⟨[], [], [], [], []⟩

def block? (t : Tables) (height : Nat) : Option BlockRow := t.blocks.lookup height

def contains (t : Tables) (height : Nat) : Bool := (t.block? height).isSome

/-- A block row in its place among rows of rising height. -/
def placeBlock (height : Nat) (row : BlockRow) : List (Nat × BlockRow) → List (Nat × BlockRow)
  | [] => [(height, row)]
  | (h, r) :: bs =>
    if height < h then (height, row) :: (h, r) :: bs else (h, r) :: placeBlock height row bs

def addBlock (t : Tables) (height : Nat) (row : BlockRow) : Tables :=
  { t with blocks := placeBlock height row t.blocks }

end Tables

/-- The rows of a block that are held back until the whole block went through. -/
structure Staged where
  transactions : List StoredTransaction
  transactionKeys : List (Nat × Hash)
  events : List StoredEvent
  eventKeys : List (Nat × Nat)
  deriving Repr

namespace Staged

def empty : Staged := ⟨[], [], [], []⟩

/-- Stages an event unless its transaction has one of its index. -/
def addEvent (transaction : Nat) (s : Staged × Outcome) (log : LogRow) : Staged × Outcome :=
  let (staged, o) := s
  if (transaction, log.index) ∈ staged.eventKeys then
    (staged, { o with logsSkipped := o.logsSkipped + 1 })
  else
    ({ staged with
        events := staged.events ++ [⟨transaction, log⟩]
        eventKeys := (transaction, log.index) :: staged.eventKeys },
      { o with logsInserted := o.logsInserted + 1 })

/-- Stages a transaction with its events, under the next id after the stored and the staged ones, or
passes over both if its block has one of its hash. -/
def addTransaction (t : Tables) (s : Staged × Outcome) (tx : TransactionRows) : Staged × Outcome :=
  let (staged, o) := s
  let key := (tx.row.block, tx.row.hash)
  if key ∈ t.transactionKeys ∨ key ∈ staged.transactionKeys then
    (staged, { o with
      transactionsSkipped := o.transactionsSkipped + 1
      logsSkipped := o.logsSkipped + tx.logs.length })
  else
    let id := t.transactions.length + staged.transactions.length + 1
    tx.logs.foldl (addEvent id)
      ({ staged with
          transactions := staged.transactions ++ [⟨id, tx.row⟩]
          transactionKeys := key :: staged.transactionKeys },
        { o with transactionsInserted := o.transactionsInserted + 1 })

end Staged

/-- The tables with a block row and with what was staged for its block. -/
def Tables.commit (t : Tables) (height : Nat) (row : BlockRow) (staged : Staged) : Tables :=
  { t.addBlock height row with
    transactions := t.transactions ++ staged.transactions
    transactionKeys := staged.transactionKeys ++ t.transactionKeys
    events := t.events ++ staged.events
    eventKeys := staged.eventKeys ++ t.eventKeys }

structure Store where
  policy : NumericPolicy
  tables : Tables
  /-- The heights and positions of transactions whose next insert fails. -/
  failures : List (Nat × Nat)
  deriving Repr

namespace Store

def empty (policy : NumericPolicy) : Store := ⟨policy, .empty, []⟩

/-- Makes the next insert of the transaction at `position` of the block at `height` fail. -/
def plantFailure (s : Store) (height position : Nat) : Store :=
  { s with failures := (height, position) :: s.failures.filter (· ≠ (height, position)) }

def injectedFailure (height position : Nat) : Error :=
  .storage s!"insert transaction {position} of block {height}: injected failure"

/-- Whether a failure is planted at a transaction, and the store in which it no longer is. -/
def takeFailure (s : Store) (height position : Nat) : Bool × Store :=
  (s.failures.contains (height, position),
    { s with failures := s.failures.filter (· ≠ (height, position)) })

/-- Stages transactions of a block, the first of them being at `position`. Ends at one at which a
failure is planted. -/
def stage (s : Store) (height position : Nat) (staged : Staged × Outcome) :
    List TransactionRows → Except Error (Staged × Outcome) × Store
  | [] => (.ok staged, s)
  | tx :: txs =>
    match s.takeFailure height position with
    | (true, s) => (.error (injectedFailure height position), s)
    | (false, s) => s.stage height (position + 1) (Staged.addTransaction s.tables staged tx) txs

/-- Writes a block unless its height is there. No table changes before all of its rows are
staged. -/
def insert (s : Store) (b : Block) : Except Error Outcome × Store :=
  match b.toRows s.policy with
  | .error e => (.error e, s)
  | .ok rows =>
    if s.tables.contains rows.height then (.ok (.alreadyIndexed rows.height), s)
    else match s.stage rows.height 0 (.empty, .inserted rows.height) rows.transactions with
      | (.error e, s) => (.error e, s)
      | (.ok (staged, outcome), s) =>
        (.ok outcome, { s with tables := s.tables.commit rows.height rows.block staged })

def block? (s : Store) (height : Nat) : Option BlockRow := s.tables.block? height

def contains (s : Store) (height : Nat) : Bool := s.tables.contains height

/-- The stored heights, lowest first. -/
def heights (s : Store) : List Nat := s.tables.blocks.map (·.1)

def blockCount (s : Store) : Nat := s.tables.blocks.length

def transactionCount (s : Store) : Nat := s.tables.transactions.length

def eventCount (s : Store) : Nat := s.tables.events.length

/-- The transactions of the block at a height, in the order in which they were written. -/
def transactionsOf (s : Store) (height : Nat) : List StoredTransaction :=
  s.tables.transactions.filter (·.row.block == height)

def events (s : Store) : List StoredEvent := s.tables.events

def maxHeight? (s : Store) : Option Nat := s.heights.max?

/-- The greatest sequence that a block was stored with. -/
def maxSequence? (s : Store) : Option Nat :=
  (s.tables.blocks.filterMap (·.2.sequence)).max?

/-- The highest `limit` heights that are not stored among the `span` heights from `min` on, the
highest first. -/
def missingAbove (s : Store) (min : Nat) : Nat → Nat → List Nat
  | 0, _ => []
  | _ + 1, 0 => []
  | span + 1, limit + 1 =>
    if s.contains (min + span) then missingAbove s min span (limit + 1)
    else (min + span) :: missingAbove s min span limit

/-- The highest `limit` heights from `min` to `max` that are not stored, the highest first. -/
def missingHeights (s : Store) (min max limit : Nat) : List Nat :=
  s.missingAbove min (max + 1 - min) limit

end Store

end BlockIndexer
