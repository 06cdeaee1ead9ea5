import BlockIndexer.Quantity

/-! The configuration of an indexer, its usual values, and the checks before anything starts. -/

namespace BlockIndexer

structure RpcConfig where
  maxRetries : UInt32
  initialBackoffMs : UInt64
  maxBackoffMs : UInt64
  requestTimeoutMs : UInt64
  deriving DecidableEq, Repr

def RpcConfig.default : RpcConfig := ⟨3, 100, 10000, 30000⟩

/-- The connections to the database. -/
structure PoolConfig where
  maxConnections : UInt32
  minConnections : UInt32
  connectTimeoutSecs : UInt64
  deriving DecidableEq, Repr

def PoolConfig.default : PoolConfig := ⟨10, 1, 30⟩

structure IndexerConfig where
  databaseUrl : Option String
  endpointUrl : Option String
  chainId : UInt64
  tipPollIntervalMs : UInt64
  gapWindowSize : UInt64
  gapMaxWindows : UInt64
  gapWindowPauseMs : UInt64
  emptyQueueBackoffMs : UInt64
  numericPolicy : NumericPolicy
  indexEmptyBlocks : Bool
  startSequence : UInt64
  feedPollIntervalMs : UInt64
  rpc : RpcConfig
  pool : PoolConfig
  deriving DecidableEq, Repr

namespace IndexerConfig

def default : IndexerConfig where
  databaseUrl := none
  endpointUrl := none
  chainId := 1313161554
  tipPollIntervalMs := 100
  gapWindowSize := 1000
  gapMaxWindows := 10000
  gapWindowPauseMs := 100
  emptyQueueBackoffMs := 100
  numericPolicy := .lenient
  indexEmptyBlocks := true
  startSequence := 1
  feedPollIntervalMs := 250
  rpc := .default
  pool := .default

def isBlankUrl (url : Option String) : Bool := url.all (·.isEmpty)

/-- Refuses settings that nothing can run with. -/
def validate (c : IndexerConfig) : Except Error Unit :=
  if isBlankUrl c.databaseUrl then .error (.config "missing database URL")
  else if c.gapWindowSize = 0 then .error (.config "gap_window_size must be positive")
  else if c.tipPollIntervalMs = 0 ∨ c.emptyQueueBackoffMs = 0 then
    .error (.config "polling intervals must be positive")
  else .ok ()

/-- Refuses also a configuration without a node. -/
def validateWithEndpoint (c : IndexerConfig) : Except Error Unit := do
  c.validate
  if isBlankUrl c.endpointUrl then throw (.config "missing endpoint URL")

end IndexerConfig

end BlockIndexer
