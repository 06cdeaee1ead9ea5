import BlockIndexer.Block.Basic

/-! The values that write a block and its parts, with every member in its place. -/

namespace BlockIndexer

open Json (Value)

def bytesValue (bytes : List UInt8) : Value := .string (Text.Hex.text bytes)

namespace ExistingBlock

def toValue (b : ExistingBlock) : Value := .object
  [("near_hash", .string b.nearHash), ("near_parent_hash", .string b.nearParentHash),
    ("author", .string b.author)]

end ExistingBlock

def NearBlock.toValue : NearBlock → Value
  | .existing b => .object [("ExistingBlock", b.toValue)]
  | .skipped => .string "SkippedBlock"

def NearTransaction.toValue (t : NearTransaction) : Value := .object
  [("hash", .string t.hash), ("receipt_hash", .string t.receiptHash)]

def AccessListItem.toValue (item : AccessListItem) : Value := .object
  [("address", item.address.toValue),
    ("storageKeys", .array (item.storageKeys.map FixedBytes.toValue))]

def Log.toValue (log : Log) : Value := .object
  [("address", log.address.toValue), ("topics", .array (log.topics.map bytesValue)),
    ("data", bytesValue log.data)]

def Transaction.toValue (t : Transaction) : Value := .object
  [("hash", t.hash.toValue),
    ("block_hash", t.blockHash.toValue),
    ("block_height", Json.nat t.blockHeight.toNat),
    ("chain_id", Json.nat t.chainId.toNat),
    ("transaction_index", Json.nat t.index.toNat),
    ("from", t.sender.toValue),
    ("to", Json.ofOption FixedBytes.toValue t.recipient),
    ("nonce", t.nonce.toValue),
    ("gas_price", t.gasPrice.toValue),
    ("gas_limit", t.gasLimit.toValue),
    ("gas_used", Json.nat t.gasUsed.toNat),
    ("max_priority_fee_per_gas", t.maxPriorityFeePerGas.toValue),
    ("max_fee_per_gas", t.maxFeePerGas.toValue),
    ("value", t.value.toValue),
    ("input", bytesValue t.input),
    ("output", bytesValue t.output),
    ("access_list", .array (t.accessList.map AccessListItem.toValue)),
    ("tx_type", Json.nat t.txType.toNat),
    ("status", .bool t.status),
    ("logs", .array (t.logs.map Log.toValue)),
    ("contract_address", Json.ofOption FixedBytes.toValue t.contractAddress),
    ("v", Json.nat t.v.toNat),
    ("r", t.r.toValue),
    ("s", t.s.toValue),
    ("near_metadata", Json.ofOption NearTransaction.toValue t.near)]

def Block.toValue (b : Block) : Value := .object
  [("chain_id", Json.nat b.chainId.toNat),
    ("hash", b.hash.toValue),
    ("parent_hash", b.parentHash.toValue),
    ("height", Json.nat b.height.toNat),
    ("miner", b.miner.toValue),
    ("timestamp", Json.int b.timestamp.toInt),
    ("gas_limit", b.gasLimit.toValue),
    ("gas_used", b.gasUsed.toValue),
    ("logs_bloom", bytesValue b.logsBloom),
    ("transactions_root", b.transactionsRoot.toValue),
    ("receipts_root", b.receiptsRoot.toValue),
    ("state_root", b.stateRoot.toValue),
    ("size", b.size.toValue),
    ("transactions", .array (b.transactions.map Transaction.toValue)),
    ("near_metadata", Json.ofOption NearBlock.toValue b.near),
    ("sequence", Json.ofOption Json.nat b.sequence)]

end BlockIndexer
