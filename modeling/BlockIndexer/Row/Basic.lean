import BlockIndexer.Block.Encode

/-! The rows of the tables for blocks, transactions and events. Numbers of any width are decimal
text; what a block leaves empty has no value in its row. -/

namespace BlockIndexer

structure BlockRow where
  chain : Nat
  /-- The height. -/
  id : Nat
  hash : Hash
  nearHash : Option (List UInt8)
  /-- Nanoseconds since 1970, the beginning of a second. -/
  timestamp : Int
  size : String
  gasLimit : String
  gasUsed : String
  parentHash : Hash
  transactionsRoot : Hash
  stateRoot : Hash
  receiptsRoot : Hash
  logsBloom : Option (List UInt8)
  miner : Address
  author : Option String
  sequence : Option Nat
  deriving DecidableEq, Repr

/-- A transaction without the id that the store gives it. -/
structure TransactionRow where
  /-- The height of its block. -/
  block : Nat
  index : Nat
  hash : Hash
  nearHash : Option (List UInt8)
  nearReceiptHash : Option (List UInt8)
  sender : Address
  recipient : Option Address
  nonce : String
  gasPrice : String
  gasLimit : String
  gasUsed : String
  value : String
  input : Option (List UInt8)
  v : String
  r : String
  s : String
  status : Bool
  output : Option (List UInt8)
  accessList : Json.Value
  maxFeePerGas : String
  maxPriorityFeePerGas : String
  txType : Nat
  contractAddress : Option Address
  deriving Repr

/-- An event without the id of its transaction. -/
structure LogRow where
  /-- The place among the transaction's logs. -/
  index : Nat
  data : Option (List UInt8)
  sender : Address
  topics : Option (List (List UInt8))
  deriving DecidableEq, Repr

structure TransactionRows where
  row : TransactionRow
  logs : List LogRow
  deriving Repr

/-- All rows of a block, in the order in which they are written. -/
structure BlockRows where
  block : BlockRow
  transactions : List TransactionRows
  deriving Repr

namespace BlockRows

def height (rows : BlockRows) : Nat := rows.block.id

end BlockRows

end BlockIndexer
