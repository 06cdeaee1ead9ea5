import BlockIndexer.Row.Basic
import BlockIndexer.Text.Base58

/-! Blocks to rows. Columns are checked in a fixed order, the first that a value does not fit gives
the error, and nothing is written before all rows are there. -/

namespace BlockIndexer

/-- A value for a signed column with `bits` bits beside the sign. -/
def column (bits : Nat) (field : String) (n : Nat) : Except Error Nat :=
  if FitsIn bits n then .ok n else .error (.decode field s!"{n} does not fit the column")

/-- The second that a time in nanoseconds lies in, also before 1970: the quotient is rounded toward
zero, and is one less if something negative is left. -/
def secondWord (t : Int64) : Int64 :=
  if t % 1000000000 < 0 then t / 1000000000 - 1 else t / 1000000000

/-- The beginning of the second that a time in nanoseconds lies in, if it is itself a word. -/
def wholeSecond (t : Int64) : Int64 := secondWord t * 1000000000

def nonEmpty (xs : List α) : Option (List α) := if xs.isEmpty then none else some xs

def nonEmptyText (s : String) : Option String := if s.isEmpty then none else some s

/-- The bytes of a NEAR hash, if there are any and the text is base 58. -/
def nearHashBytes (s : String) : Option (List UInt8) :=
  if s.isEmpty then none else Text.Base58.decode? s.toList

namespace NearBlock

def hash? : NearBlock → Option (List UInt8)
  | .existing b => nearHashBytes b.nearHash
  | .skipped => none

def author? : NearBlock → Option String
  | .existing b => nonEmptyText b.author
  | .skipped => none

end NearBlock

def Log.toRow (index : Nat) (log : Log) : Except Error LogRow := do
  return {
    index := ← column 31 "event.index" index
    data := nonEmpty log.data
    sender := log.address
    topics := nonEmpty log.topics }

/-- The rows of logs, the first of which has the given index. -/
def logRows (index : Nat) : List Log → Except Error (List LogRow)
  | [] => .ok []
  | log :: logs => do
    let row ← log.toRow index
    let rows ← logRows (index + 1) logs
    return row :: rows

namespace Transaction

def toRow (policy : NumericPolicy) (height : Nat) (t : Transaction) :
    Except Error TransactionRow := do
  return {
    block := ← column 63 "transaction.block" height
    index := ← column 31 "transaction.index" t.index.toNat
    hash := t.hash
    nearHash := t.near.bind fun near => nearHashBytes near.hash
    nearReceiptHash := t.near.bind fun near => nearHashBytes near.receiptHash
    sender := t.sender
    recipient := t.recipient
    nonce := ← t.nonce.render policy "transaction.nonce"
    gasPrice := ← t.gasPrice.render policy "transaction.gas_price"
    gasLimit := ← t.gasLimit.render policy "transaction.gas_limit"
    gasUsed := t.gasUsed.toNat.repr
    value := ← t.value.render policy "transaction.value"
    input := nonEmpty t.input
    v := t.v.toNat.repr
    r := ← t.r.render policy "transaction.r"
    s := ← t.s.render policy "transaction.s"
    status := t.status
    output := nonEmpty t.output
    accessList := .array (t.accessList.map AccessListItem.toValue)
    maxFeePerGas := ← t.maxFeePerGas.render policy "transaction.max_fee_per_gas"
    maxPriorityFeePerGas := ←
      t.maxPriorityFeePerGas.render policy "transaction.max_priority_fee_per_gas"
    txType := t.txType.toNat
    contractAddress := t.contractAddress }

def toRows (policy : NumericPolicy) (height : Nat) (t : Transaction) :
    Except Error TransactionRows := do
  let row ← t.toRow policy height
  let logs ← logRows 0 t.logs
  return ⟨row, logs⟩

end Transaction

namespace Block

def toRow (policy : NumericPolicy) (b : Block) : Except Error BlockRow := do
  return {
    chain := ← column 63 "block.chain" b.chainId.toNat
    id := ← column 63 "block.id" b.height.toNat
    hash := b.hash
    nearHash := b.near.bind NearBlock.hash?
    timestamp := (wholeSecond b.timestamp).toInt
    size := ← b.size.render policy "block.size"
    gasLimit := ← b.gasLimit.render policy "block.gas_limit"
    gasUsed := ← b.gasUsed.render policy "block.gas_used"
    parentHash := b.parentHash
    transactionsRoot := b.transactionsRoot
    stateRoot := b.stateRoot
    receiptsRoot := b.receiptsRoot
    logsBloom := nonEmpty b.logsBloom
    miner := b.miner
    author := b.near.bind NearBlock.author?
    sequence := ← b.sequence.mapM (column 63 "block.sequence") }

/-- All rows of a block, or the first reason why they cannot be written. -/
def toRows (policy : NumericPolicy) (b : Block) : Except Error BlockRows := do
  let block ← b.toRow policy
  let transactions ← b.transactions.mapM (Transaction.toRows policy b.height.toNat)
  return ⟨block, transactions⟩

end Block

end BlockIndexer
