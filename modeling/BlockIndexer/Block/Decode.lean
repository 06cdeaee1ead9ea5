import BlockIndexer.Block.Basic

/-! Blocks of documents. A block's members may come in any order, under either spelling where there
are two, and those with a usual value may be missing; unknown members are passed over. -/

namespace BlockIndexer

open Json (Document Layout)

namespace ExistingBlock

def shape : Shape := .ofNames ["near_hash", "near_parent_hash", "author"] 3

def ofDocument? (d : Document) : Option ExistingBlock := do
  let fields ← d.fields? shape
  return {
    nearHash := ← fields.required? "near_hash" Document.string?
    nearParentHash := ← fields.required? "near_parent_hash" Document.string?
    author := ← fields.required? "author" Document.string? }

end ExistingBlock

/-- Either the bare tag of a skipped height, alone or with null, or an existing block under its
tag. -/
def NearBlock.ofDocument? : Document → Option NearBlock
  | .string (some "SkippedBlock") => some .skipped
  | .object [(some "SkippedBlock", .null)] => some .skipped
  | .object [(some "ExistingBlock", d)] => (ExistingBlock.ofDocument? d).map .existing
  | _ => none

namespace NearTransaction

def shape : Shape := .ofNames ["hash", "receipt_hash"] 0

def ofDocument? (d : Document) : Option NearTransaction := do
  let fields ← d.fields? shape
  return {
    hash := ← fields.orElse? "hash" "" Document.string?
    receiptHash := ← fields.orElse? "receipt_hash" "" Document.string? }

end NearTransaction

namespace AccessListItem

def shape : Shape := ⟨[⟨"address", []⟩, ⟨"storageKeys", ["storage_keys"]⟩], 1⟩

def layout : Layout := .record shape [("address", .bytes 20), ("storageKeys", .list (.bytes 32))]

def ofDocument? (d : Document) : Option AccessListItem := do
  let fields ← d.fields? shape
  return {
    address := ← fields.required? "address" Document.fixedBytes?
    storageKeys := ← fields.orElse? "storageKeys" [] (Document.array? Document.fixedBytes?) }

end AccessListItem

namespace Log

def shape : Shape := ⟨[⟨"address", ["Address"]⟩, ⟨"topics", ["Topics"]⟩, ⟨"data", []⟩], 0⟩

def layout : Layout := .record shape [("address", .bytes 20)]

def ofDocument? (d : Document) : Option Log := do
  let fields ← d.fields? shape
  return {
    address := ← fields.orElse? "address" .zero Document.fixedBytes?
    topics := ← fields.orElse? "topics" [] (Document.array? Document.bytes?)
    data := ← fields.orElse? "data" [] Document.bytes? }

end Log

namespace Transaction

def shape : Shape := .ofNames
  ["hash", "block_hash", "block_height", "chain_id", "transaction_index", "from", "to", "nonce",
    "gas_price", "gas_limit", "gas_used", "max_priority_fee_per_gas", "max_fee_per_gas", "value",
    "input", "output", "access_list", "tx_type", "status", "logs", "contract_address", "v", "r",
    "s", "near_metadata"] 0

def layout : Layout := .record shape
  [("hash", .bytes 32), ("block_hash", .bytes 32), ("from", .bytes 20), ("to", .bytes 20),
    ("access_list", .list AccessListItem.layout), ("logs", .list Log.layout),
    ("contract_address", .bytes 20)]

/-- The levels that a quantity of a transaction may nest: the block, the list of its transactions
and the transaction take three. -/
def quantityDepth : Nat := Json.maxDepth - 3

def ofDocument? (d : Document) : Option Transaction := do
  let fields ← d.fields? shape
  let quantity? name := fields.orElse? name Quantity.absent (Quantity.ofDocument? quantityDepth)
  return {
    hash := ← fields.orElse? "hash" .zero Document.fixedBytes?
    blockHash := ← fields.orElse? "block_hash" .zero Document.fixedBytes?
    blockHeight := ← fields.orElse? "block_height" 0 Document.uint64?
    chainId := ← fields.orElse? "chain_id" 0 Document.uint64?
    index := ← fields.orElse? "transaction_index" 0 Document.uint32?
    sender := ← fields.orElse? "from" .zero Document.fixedBytes?
    recipient := ← fields.orElse? "to" none (Document.nullable? Document.fixedBytes?)
    nonce := ← quantity? "nonce"
    gasPrice := ← quantity? "gas_price"
    gasLimit := ← quantity? "gas_limit"
    gasUsed := ← fields.orElse? "gas_used" 0 Document.uint64?
    maxPriorityFeePerGas := ← quantity? "max_priority_fee_per_gas"
    maxFeePerGas := ← quantity? "max_fee_per_gas"
    value := ← quantity? "value"
    input := ← fields.orElse? "input" [] Document.bytes?
    output := ← fields.orElse? "output" [] Document.bytes?
    accessList := ← fields.orElse? "access_list" [] (Document.array? AccessListItem.ofDocument?)
    txType := ← fields.orElse? "tx_type" 0 Document.uint8?
    status := ← fields.orElse? "status" false Document.bool?
    logs := ← fields.orElse? "logs" [] (Document.array? Log.ofDocument?)
    contractAddress := ←
      fields.orElse? "contract_address" none (Document.nullable? Document.fixedBytes?)
    v := ← fields.orElse? "v" 0 Document.uint64?
    r := ← quantity? "r"
    s := ← quantity? "s"
    near := ←
      fields.orElse? "near_metadata" none (Document.nullable? NearTransaction.ofDocument?) }

end Transaction

namespace Block

def shape : Shape := .ofNames
  ["chain_id", "hash", "parent_hash", "height", "miner", "timestamp", "gas_limit", "gas_used",
    "logs_bloom", "transactions_root", "receipts_root", "state_root", "size", "transactions",
    "near_metadata", "sequence"] 12

def layout : Layout := .record shape
  [("hash", .bytes 32), ("parent_hash", .bytes 32), ("miner", .bytes 20),
    ("transactions_root", .bytes 32), ("receipts_root", .bytes 32), ("state_root", .bytes 32),
    ("transactions", .list Transaction.layout)]

/-- The levels that a quantity of a block may nest inside the block. -/
def quantityDepth : Nat := Json.maxDepth - 1

def ofDocument? (d : Document) : Option Block := do
  let fields ← d.fields? shape
  return {
    chainId := ← fields.required? "chain_id" Document.uint64?
    hash := ← fields.required? "hash" Document.fixedBytes?
    parentHash := ← fields.required? "parent_hash" Document.fixedBytes?
    height := ← fields.required? "height" Document.uint64?
    miner := ← fields.required? "miner" Document.fixedBytes?
    timestamp := ← fields.required? "timestamp" Document.int64?
    gasLimit := ← fields.required? "gas_limit" (Quantity.ofDocument? quantityDepth)
    gasUsed := ← fields.required? "gas_used" (Quantity.ofDocument? quantityDepth)
    logsBloom := ← fields.orElse? "logs_bloom" [] Document.bytes?
    transactionsRoot := ← fields.required? "transactions_root" Document.fixedBytes?
    receiptsRoot := ← fields.required? "receipts_root" Document.fixedBytes?
    stateRoot := ← fields.required? "state_root" Document.fixedBytes?
    size := ← fields.orElse? "size" .absent (Quantity.ofDocument? quantityDepth)
    transactions := ← fields.orElse? "transactions" [] (Document.array? Transaction.ofDocument?)
    near := ← fields.orElse? "near_metadata" none (Document.nullable? NearBlock.ofDocument?)
    sequence := ← fields.orElse? "sequence" none (Document.nullable? (Document.nat? 64)) }

def ofString? (s : String) : Option Block := (Document.ofText? layout s).bind ofDocument?

/-- The block that the bytes of a text write. -/
def ofBytes? (bytes : List UInt8) : Option Block :=
  (Document.ofBytes? layout bytes).bind ofDocument?

end Block

end BlockIndexer
