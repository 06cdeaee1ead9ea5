import BlockIndexer.Block.Decode
import BlockIndexer.Rpc.Client

/-! Blocks from a node. A block comes with its transactions, and each transaction's receipt is asked
for by its hash; together they give the block to index. A height that the node has no block for may
stand as an empty block. -/

namespace BlockIndexer.Rpc

open Json (Document Value)

/-- An unsigned word, as a number or as a numeral. -/
def word? : Document → Option UInt64
  | .string s => s.bind fun s => (Text.word? 64 s.toList).map UInt64.ofNat
  | d => d.uint64?

structure NodeTransaction where
  hash : Hash
  blockHash : Hash
  index : UInt64
  sender : Address
  recipient : Option Address
  nonce : Quantity
  gasPrice : Quantity
  gas : Quantity
  value : Quantity
  input : List UInt8
  v : UInt64
  r : Quantity
  s : Quantity
  txType : UInt64
  maxFeePerGas : Quantity
  maxPriorityFeePerGas : Quantity
  accessList : List AccessListItem
  deriving DecidableEq, Repr

structure NodeBlock where
  number : UInt64
  hash : Hash
  parentHash : Hash
  miner : Address
  /-- Seconds since 1970. -/
  timestamp : UInt64
  gasLimit : Quantity
  gasUsed : Quantity
  logsBloom : List UInt8
  transactionsRoot : Hash
  receiptsRoot : Hash
  stateRoot : Hash
  size : Quantity
  transactions : List NodeTransaction
  deriving DecidableEq, Repr

structure NodeLog where
  address : Address
  topics : List Hash
  data : List UInt8
  deriving DecidableEq, Repr

structure Receipt where
  gasUsed : UInt64
  status : UInt64
  logs : List NodeLog
  contractAddress : Option Address
  deriving DecidableEq, Repr

def quantity? (d : Document) : Option Quantity := Quantity.ofDocument? Json.maxDepth d

namespace NodeTransaction

def shape : Shape := .ofNames
  ["hash", "blockHash", "transactionIndex", "from", "to", "nonce", "gasPrice", "gas", "value",
    "input", "v", "r", "s", "type", "maxFeePerGas", "maxPriorityFeePerGas", "accessList"] 9

def ofDocument? (d : Document) : Option NodeTransaction := do
  let fields ← d.fields? shape
  return {
    hash := ← fields.required? "hash" Document.fixedBytes?
    blockHash := ← fields.orElse? "blockHash" .zero Document.fixedBytes?
    index := ← fields.required? "transactionIndex" word?
    sender := ← fields.required? "from" Document.fixedBytes?
    recipient := ← fields.orElse? "to" none (Document.nullable? Document.fixedBytes?)
    nonce := ← fields.required? "nonce" quantity?
    gasPrice := ← fields.orElse? "gasPrice" .absent quantity?
    gas := ← fields.required? "gas" quantity?
    value := ← fields.required? "value" quantity?
    input := ← fields.orElse? "input" [] Document.bytes?
    v := ← fields.orElse? "v" 0 word?
    r := ← fields.orElse? "r" .absent quantity?
    s := ← fields.orElse? "s" .absent quantity?
    txType := ← fields.orElse? "type" 0 word?
    maxFeePerGas := ← fields.orElse? "maxFeePerGas" .absent quantity?
    maxPriorityFeePerGas := ← fields.orElse? "maxPriorityFeePerGas" .absent quantity?
    accessList := ← fields.orElse? "accessList" [] (Document.array? AccessListItem.ofDocument?) }

end NodeTransaction

namespace NodeBlock

def shape : Shape := .ofNames
  ["number", "hash", "parentHash", "miner", "timestamp", "gasLimit", "gasUsed", "logsBloom",
    "transactionsRoot", "receiptsRoot", "stateRoot", "size", "transactions"] 11

def ofDocument? (d : Document) : Option NodeBlock := do
  let fields ← d.fields? shape
  return {
    number := ← fields.required? "number" word?
    hash := ← fields.required? "hash" Document.fixedBytes?
    parentHash := ← fields.required? "parentHash" Document.fixedBytes?
    miner := ← fields.required? "miner" Document.fixedBytes?
    timestamp := ← fields.required? "timestamp" word?
    gasLimit := ← fields.required? "gasLimit" quantity?
    gasUsed := ← fields.required? "gasUsed" quantity?
    logsBloom := ← fields.orElse? "logsBloom" [] Document.bytes?
    transactionsRoot := ← fields.required? "transactionsRoot" Document.fixedBytes?
    receiptsRoot := ← fields.required? "receiptsRoot" Document.fixedBytes?
    stateRoot := ← fields.required? "stateRoot" Document.fixedBytes?
    size := ← fields.orElse? "size" .absent quantity?
    transactions := ←
      fields.orElse? "transactions" [] (Document.array? NodeTransaction.ofDocument?) }

end NodeBlock

namespace NodeLog

def shape : Shape := .ofNames ["address", "topics", "data"] 1

def ofDocument? (d : Document) : Option NodeLog := do
  let fields ← d.fields? shape
  return {
    address := ← fields.required? "address" Document.fixedBytes?
    topics := ← fields.orElse? "topics" [] (Document.array? Document.fixedBytes?)
    data := ← fields.orElse? "data" [] Document.bytes? }

def toLog (log : NodeLog) : Log := ⟨log.address, log.topics.map (·.toList), log.data⟩

end NodeLog

namespace Receipt

def shape : Shape := .ofNames ["gasUsed", "status", "logs", "contractAddress"] 4

def ofDocument? (d : Document) : Option Receipt := do
  let fields ← d.fields? shape
  return {
    gasUsed := ← fields.required? "gasUsed" word?
    status := ← fields.orElse? "status" 0 word?
    logs := ← fields.orElse? "logs" [] (Document.array? NodeLog.ofDocument?)
    contractAddress := ←
      fields.orElse? "contractAddress" none (Document.nullable? Document.fixedBytes?) }

end Receipt

/-- The value of a field that must fit in so many bits. -/
def narrow (bits : Nat) (field : String) (height n : Nat) : Except Error Nat :=
  if FitsIn bits n then .ok n
  else .error (.protocol s!"{field} {n} out of range in #{height}")

/-- Seconds as nanoseconds in a signed word. -/
def nanoseconds (height seconds : Nat) : Except Error Int64 :=
  if FitsIn 63 (seconds * 1000000000) then .ok (Int64.ofNat (seconds * 1000000000))
  else .error (.protocol s!"timestamp {seconds} out of range in #{height}")

/-- A transaction of the block at a height, with its receipt. -/
def NodeTransaction.toTransaction (chainId height : UInt64) (t : NodeTransaction)
    (receipt : Receipt) : Except Error Transaction := do
  let index ← narrow 32 "transactionIndex" height.toNat t.index.toNat
  let txType ← narrow 8 "type" height.toNat t.txType.toNat
  return {
    hash := t.hash
    blockHash := t.blockHash
    blockHeight := height
    chainId
    index := UInt32.ofNat index
    sender := t.sender
    recipient := t.recipient
    nonce := t.nonce
    gasPrice := t.gasPrice
    gasLimit := t.gas
    gasUsed := receipt.gasUsed
    maxPriorityFeePerGas := t.maxPriorityFeePerGas
    maxFeePerGas := t.maxFeePerGas
    value := t.value
    input := t.input
    output := []
    accessList := t.accessList
    txType := UInt8.ofNat txType
    status := receipt.status == 1
    logs := receipt.logs.map NodeLog.toLog
    contractAddress := receipt.contractAddress
    v := t.v
    r := t.r
    s := t.s
    near := none }

/-- The block to index, given the receipts of its transactions in their order. -/
def NodeBlock.toBlock (chainId : UInt64) (b : NodeBlock) (receipts : List Receipt) :
    Except Error Block := do
  let timestamp ← nanoseconds b.number.toNat b.timestamp.toNat
  let transactions ← (b.transactions.zip receipts).mapM fun (t, receipt) =>
    t.toTransaction chainId b.number receipt
  return {
    chainId
    hash := b.hash
    parentHash := b.parentHash
    height := b.number
    miner := b.miner
    timestamp
    gasLimit := b.gasLimit
    gasUsed := b.gasUsed
    logsBloom := b.logsBloom
    transactionsRoot := b.transactionsRoot
    receiptsRoot := b.receiptsRoot
    stateRoot := b.stateRoot
    size := b.size
    transactions
    near := none
    sequence := none }

/-- What blocks a node's heights stand for. -/
structure BlockFetcher where
  chainId : UInt64
  /-- Whether a height that the node has no block for stands as an empty block. -/
  emptyBlocks : Bool
  deriving DecidableEq, Repr

/-- What a node says of a height that it has no block for. -/
def missingBlockMarker : String := "DB Not Found"

namespace Client

/-- Asks for the receipts of the transactions of the block at a height, one by one. -/
def receipts (height : Nat) (c : Client) :
    List NodeTransaction → Except Error (List Receipt) × Client
  | [] => (.ok [], c)
  | t :: ts =>
    match c.call "eth_getTransactionReceipt" (.array [t.hash.toValue])
      (Document.nullable? Receipt.ofDocument?) with
    | (.error e, c) => (.error e.toError, c)
    | (.ok none, c) =>
      (.error (.protocol s!"missing receipt for {t.hash.text} in #{height}"), c)
    | (.ok (some receipt), c) =>
      match receipts height c ts with
      | (.error e, c) => (.error e, c)
      | (.ok rest, c) => (.ok (receipt :: rest), c)

/-- Fetches the block at a height. -/
def block (f : BlockFetcher) (height : UInt64) (c : Client) : Except Error Block × Client :=
  match c.call "eth_getBlockByNumber"
    (.array [.string (Text.hexNumeral height.toNat), .bool true])
    (Document.nullable? NodeBlock.ofDocument?) with
  | (.error (.fault fault), c) =>
    if fault.mentions missingBlockMarker then
      if f.emptyBlocks then (.ok (.empty f.chainId height), c)
      else (.error (.rpc s!"block #{height.toNat}: {fault.text}"), c)
    else (.error (CallError.fault fault).toError, c)
  | (.error e, c) => (.error e.toError, c)
  | (.ok none, c) => (.error (.protocol s!"node returned no block at #{height.toNat}"), c)
  | (.ok (some b), c) =>
    if b.number = height then
      match receipts height.toNat c b.transactions with
      | (.error e, c) => (.error e, c)
      | (.ok receipts, c) => (b.toBlock f.chainId receipts, c)
    else
      (.error (.protocol
        s!"asked for block #{height.toNat}, node answered #{b.number.toNat}"), c)

end Client

end BlockIndexer.Rpc
