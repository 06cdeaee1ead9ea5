import BlockIndexer.Json.Decode
import BlockIndexer.Quantity

/-! A block with its transactions and their logs, as a producer hands it over. Integers have the
width of their field; quantities keep the literal they arrived as. -/

namespace BlockIndexer

/-- The identifiers of a block on the NEAR chain; hashes are base 58 text. -/
structure ExistingBlock where
  nearHash : String
  nearParentHash : String
  author : String
  deriving DecidableEq, Repr

/-- What the NEAR chain has at a height. -/
inductive NearBlock where
  | existing (block : ExistingBlock)
  | skipped
  deriving DecidableEq, Repr

/-- The identifiers of a transaction on the NEAR chain, base 58 text. -/
structure NearTransaction where
  hash : String
  receiptHash : String
  deriving DecidableEq, Repr

structure AccessListItem where
  address : Address
  storageKeys : List Hash
  deriving DecidableEq, Repr

/-- An event of a transaction. Its index is its place among the transaction's logs. -/
structure Log where
  address : Address
  topics : List (List UInt8)
  data : List UInt8
  deriving DecidableEq, Repr

structure Transaction where
  hash : Hash
  blockHash : Hash
  blockHeight : UInt64
  chainId : UInt64
  index : UInt32
  sender : Address
  recipient : Option Address
  nonce : Quantity
  gasPrice : Quantity
  gasLimit : Quantity
  gasUsed : UInt64
  maxPriorityFeePerGas : Quantity
  maxFeePerGas : Quantity
  value : Quantity
  input : List UInt8
  output : List UInt8
  accessList : List AccessListItem
  txType : UInt8
  status : Bool
  logs : List Log
  contractAddress : Option Address
  v : UInt64
  r : Quantity
  s : Quantity
  near : Option NearTransaction
  deriving DecidableEq, Repr

structure Block where
  chainId : UInt64
  hash : Hash
  parentHash : Hash
  height : UInt64
  miner : Address
  /-- Nanoseconds since 1970. -/
  timestamp : Int64
  gasLimit : Quantity
  gasUsed : Quantity
  logsBloom : List UInt8
  transactionsRoot : Hash
  receiptsRoot : Hash
  stateRoot : Hash
  size : Quantity
  transactions : List Transaction
  near : Option NearBlock
  /-- The place in a log that the block was delivered at. -/
  sequence : Option Nat
  deriving DecidableEq, Repr

namespace Block

/-- The block that stands for a height which the chain skipped. -/
def empty (chainId height : UInt64) : Block where
  chainId
  hash := .zero
  parentHash := .zero
  height
  miner := .zero
  timestamp := 0
  gasLimit := .ofNat 0
  gasUsed := .ofNat 0
  logsBloom := []
  transactionsRoot := .zero
  receiptsRoot := .zero
  stateRoot := .zero
  size := .ofNat 0
  transactions := []
  near := some .skipped
  sequence := none

def withSequence (b : Block) (sequence : Nat) : Block := { b with sequence := some sequence }

def logCount (b : Block) : Nat := (b.transactions.flatMap (·.logs)).length

def isSkipped (b : Block) : Bool := b.near == some .skipped

end Block

end BlockIndexer
