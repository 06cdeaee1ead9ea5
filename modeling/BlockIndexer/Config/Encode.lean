import BlockIndexer.Config.Basic

/-! The values that write a configuration, all members included. -/

namespace BlockIndexer

open Json (Value)

def RpcConfig.toValue (c : RpcConfig) : Value := .object
  [("max_retries", Json.nat c.maxRetries.toNat),
    ("initial_backoff_ms", Json.nat c.initialBackoffMs.toNat),
    ("max_backoff_ms", Json.nat c.maxBackoffMs.toNat),
    ("request_timeout_ms", Json.nat c.requestTimeoutMs.toNat)]

def PoolConfig.toValue (c : PoolConfig) : Value := .object
  [("max_connections", Json.nat c.maxConnections.toNat),
    ("min_connections", Json.nat c.minConnections.toNat),
    ("connect_timeout_secs", Json.nat c.connectTimeoutSecs.toNat)]

def IndexerConfig.toValue (c : IndexerConfig) : Value := .object
  [("database_url", Json.ofOption .string c.databaseUrl),
    ("endpoint_url", Json.ofOption .string c.endpointUrl),
    ("chain_id", Json.nat c.chainId.toNat),
    ("tip_poll_interval_ms", Json.nat c.tipPollIntervalMs.toNat),
    ("gap_window_size", Json.nat c.gapWindowSize.toNat),
    ("gap_max_windows", Json.nat c.gapMaxWindows.toNat),
    ("gap_window_pause_ms", Json.nat c.gapWindowPauseMs.toNat),
    ("empty_queue_backoff_ms", Json.nat c.emptyQueueBackoffMs.toNat),
    ("numeric_policy", .string c.numericPolicy.name),
    ("index_empty_blocks", .bool c.indexEmptyBlocks),
    ("start_sequence", Json.nat c.startSequence.toNat),
    ("feed_poll_interval_ms", Json.nat c.feedPollIntervalMs.toNat),
    ("rpc", c.rpc.toValue),
    ("postgres", c.pool.toValue)]

end BlockIndexer
