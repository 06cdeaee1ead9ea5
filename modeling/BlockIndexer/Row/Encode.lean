import BlockIndexer.Row.Basic

/-! The values that show rows: bytes as hexadecimal text, a column without value as null. A time is
shown as its seconds and the nanoseconds beyond them. -/

namespace BlockIndexer

open Json (Value)

def BlockRow.toValue (row : BlockRow) : Value := .object
  [("chain", Json.nat row.chain),
    ("id", Json.nat row.id),
    ("hash", row.hash.toValue),
    ("near_hash", Json.ofOption bytesValue row.nearHash),
    ("timestamp", .array
      [Json.int (row.timestamp / 1000000000), Json.int (row.timestamp % 1000000000)]),
    ("size", .string row.size),
    ("gas_limit", .string row.gasLimit),
    ("gas_used", .string row.gasUsed),
    ("parent_hash", row.parentHash.toValue),
    ("transactions_root", row.transactionsRoot.toValue),
    ("state_root", row.stateRoot.toValue),
    ("receipts_root", row.receiptsRoot.toValue),
    ("logs_bloom", Json.ofOption bytesValue row.logsBloom),
    ("miner", row.miner.toValue),
    ("author", Json.ofOption .string row.author),
    ("sequence", Json.ofOption Json.nat row.sequence)]

def TransactionRow.toValue (row : TransactionRow) : Value := .object
  [("block", Json.nat row.block),
    ("index", Json.nat row.index),
    ("hash", row.hash.toValue),
    ("near_hash", Json.ofOption bytesValue row.nearHash),
    ("near_receipt_hash", Json.ofOption bytesValue row.nearReceiptHash),
    ("from", row.sender.toValue),
    ("to", Json.ofOption FixedBytes.toValue row.recipient),
    ("nonce", .string row.nonce),
    ("gas_price", .string row.gasPrice),
    ("gas_limit", .string row.gasLimit),
    ("gas_used", .string row.gasUsed),
    ("value", .string row.value),
    ("input", Json.ofOption bytesValue row.input),
    ("v", .string row.v),
    ("r", .string row.r),
    ("s", .string row.s),
    ("status", .bool row.status),
    ("output", Json.ofOption bytesValue row.output),
    ("access_list", row.accessList),
    ("max_fee_per_gas", .string row.maxFeePerGas),
    ("max_priority_fee_per_gas", .string row.maxPriorityFeePerGas),
    ("tx_type", Json.nat row.txType),
    ("contract_address", Json.ofOption FixedBytes.toValue row.contractAddress)]

def LogRow.toValue (row : LogRow) : Value := .object
  [("index", Json.nat row.index),
    ("data", Json.ofOption bytesValue row.data),
    ("from", row.sender.toValue),
    ("topics", Json.ofOption (fun ts => .array (ts.map bytesValue)) row.topics)]

end BlockIndexer
