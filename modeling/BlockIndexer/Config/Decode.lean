import BlockIndexer.Config.Basic
import BlockIndexer.Json.Decode

/-! Configurations of documents. Any member may be missing and then has its usual value, also
within the two groups; two members have a second spelling. The document may be JSON or another
notation, as long as it says how its parts are read. -/

namespace BlockIndexer

/-- How a notation says what a configuration is made of. -/
class ConfigDocument (α : Type) where
  /-- The fields of a record whose members may all be missing. -/
  fields? : Shape → α → Option (Fields α)
  nat? : α → Option Nat
  /-- A text, or none where null stands. -/
  optionalText? : α → Option (Option String)
  flag? : α → Option Bool
  /-- The name of one of several choices. -/
  choice? : α → Option String

namespace Json.Document

/-- A name alone, or as the only member of an object, with null. -/
def choice? : Document → Option String
  | .string s => s
  | .object [(name, .null)] => name
  | _ => none

instance : ConfigDocument Document where
  fields? := fields?
  nat? d := d.int?.bind Int.toNat?
  optionalText? := nullable? string?
  flag? := bool?
  choice? := choice?

end Json.Document

namespace ConfigDocument

variable {α : Type} [ConfigDocument α]

def uint32? (a : α) : Option UInt32 :=
  ((nat? a).filter (FitsIn 32 ·)).map UInt32.ofNat

def uint64? (a : α) : Option UInt64 :=
  ((nat? a).filter (FitsIn 64 ·)).map UInt64.ofNat

def policy? (a : α) : Option NumericPolicy := (choice? a).bind NumericPolicy.ofName?

end ConfigDocument

open ConfigDocument

namespace RpcConfig

def shape : Shape := .ofNames
  ["max_retries", "initial_backoff_ms", "max_backoff_ms", "request_timeout_ms"] 0

def ofDocument? [ConfigDocument α] (a : α) : Option RpcConfig := do
  let fields ← ConfigDocument.fields? shape a
  return {
    maxRetries := ← fields.orElse? "max_retries" default.maxRetries uint32?
    initialBackoffMs := ← fields.orElse? "initial_backoff_ms" default.initialBackoffMs uint64?
    maxBackoffMs := ← fields.orElse? "max_backoff_ms" default.maxBackoffMs uint64?
    requestTimeoutMs := ← fields.orElse? "request_timeout_ms" default.requestTimeoutMs uint64? }

end RpcConfig

namespace PoolConfig

def shape : Shape := .ofNames ["max_connections", "min_connections", "connect_timeout_secs"] 0

def ofDocument? [ConfigDocument α] (a : α) : Option PoolConfig := do
  let fields ← ConfigDocument.fields? shape a
  return {
    maxConnections := ← fields.orElse? "max_connections" default.maxConnections uint32?
    minConnections := ← fields.orElse? "min_connections" default.minConnections uint32?
    connectTimeoutSecs := ←
      fields.orElse? "connect_timeout_secs" default.connectTimeoutSecs uint64? }

end PoolConfig

namespace IndexerConfig

def shape : Shape where
  members := [
    ⟨"database_url", ["database"]⟩,
    ⟨"endpoint_url", ["endpoint"]⟩,
    ⟨"chain_id", []⟩,
    ⟨"tip_poll_interval_ms", []⟩,
    ⟨"gap_window_size", []⟩,
    ⟨"gap_max_windows", []⟩,
    ⟨"gap_window_pause_ms", []⟩,
    ⟨"empty_queue_backoff_ms", []⟩,
    ⟨"numeric_policy", []⟩,
    ⟨"index_empty_blocks", []⟩,
    ⟨"start_sequence", []⟩,
    ⟨"feed_poll_interval_ms", []⟩,
    ⟨"rpc", []⟩,
    ⟨"postgres", []⟩]
  leading := 0

def ofDocument? [ConfigDocument α] (a : α) : Option IndexerConfig := do
  let fields ← ConfigDocument.fields? shape a
  let number? name usual := fields.orElse? name usual uint64?
  return {
    databaseUrl := ← fields.orElse? "database_url" none optionalText?
    endpointUrl := ← fields.orElse? "endpoint_url" none optionalText?
    chainId := ← number? "chain_id" default.chainId
    tipPollIntervalMs := ← number? "tip_poll_interval_ms" default.tipPollIntervalMs
    gapWindowSize := ← number? "gap_window_size" default.gapWindowSize
    gapMaxWindows := ← number? "gap_max_windows" default.gapMaxWindows
    gapWindowPauseMs := ← number? "gap_window_pause_ms" default.gapWindowPauseMs
    emptyQueueBackoffMs := ← number? "empty_queue_backoff_ms" default.emptyQueueBackoffMs
    numericPolicy := ← fields.orElse? "numeric_policy" default.numericPolicy policy?
    indexEmptyBlocks := ← fields.orElse? "index_empty_blocks" default.indexEmptyBlocks flag?
    startSequence := ← number? "start_sequence" default.startSequence
    feedPollIntervalMs := ← number? "feed_poll_interval_ms" default.feedPollIntervalMs
    rpc := ← fields.orElse? "rpc" .default RpcConfig.ofDocument?
    pool := ← fields.orElse? "postgres" .default PoolConfig.ofDocument? }

def ofJson? (s : String) : Option IndexerConfig :=
  (Json.Document.ofString? s).bind ofDocument?

end IndexerConfig

end BlockIndexer
