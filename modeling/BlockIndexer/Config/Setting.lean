import BlockIndexer.Config.Basic

/-! Settings change a configuration, one field or one group each. -/

namespace BlockIndexer

inductive Setting where
  | databaseUrl (url : String)
  | endpointUrl (url : String)
  | chainId (id : UInt64)
  | tipPollIntervalMs (ms : UInt64)
  | gapWindowSize (size : UInt64)
  | gapMaxWindows (count : UInt64)
  | gapWindowPauseMs (ms : UInt64)
  | emptyQueueBackoffMs (ms : UInt64)
  | numericPolicy (policy : NumericPolicy)
  | indexEmptyBlocks (enabled : Bool)
  | startSequence (sequence : UInt64)
  | feedPollIntervalMs (ms : UInt64)
  | rpc (config : RpcConfig)
  | pool (config : PoolConfig)
  deriving DecidableEq, Repr

namespace IndexerConfig

def set (c : IndexerConfig) : Setting → IndexerConfig
  | .databaseUrl url => { c with databaseUrl := some url }
  | .endpointUrl url => { c with endpointUrl := some url }
  | .chainId id => { c with chainId := id }
  | .tipPollIntervalMs ms => { c with tipPollIntervalMs := ms }
  | .gapWindowSize size => { c with gapWindowSize := size }
  | .gapMaxWindows count => { c with gapMaxWindows := count }
  | .gapWindowPauseMs ms => { c with gapWindowPauseMs := ms }
  | .emptyQueueBackoffMs ms => { c with emptyQueueBackoffMs := ms }
  | .numericPolicy policy => { c with numericPolicy := policy }
  | .indexEmptyBlocks enabled => { c with indexEmptyBlocks := enabled }
  | .startSequence sequence => { c with startSequence := sequence }
  | .feedPollIntervalMs ms => { c with feedPollIntervalMs := ms }
  | .rpc config => { c with rpc := config }
  | .pool config => { c with pool := config }

/-- Changes a configuration by settings, the first one first. -/
def setAll (c : IndexerConfig) (settings : List Setting) : IndexerConfig := settings.foldl set c

def build (c : IndexerConfig) (settings : List Setting) : Except Error IndexerConfig := do
  (c.setAll settings).validate
  return c.setAll settings

end IndexerConfig

end BlockIndexer
