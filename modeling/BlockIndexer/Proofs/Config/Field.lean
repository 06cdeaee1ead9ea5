import BlockIndexer.Config.Setting
import BlockIndexer.Config.Yaml

/-! A configuration is the function from its fields to their values. Settings and overrides are
layers over it: each says of every field what it makes of it, if it changes it at all. -/

namespace BlockIndexer

/-- The kinds of values that fields have. -/
inductive Kind where
  | url
  | word32
  | word64
  | flag
  | policy

abbrev Kind.Value : Kind → Type
  | .url => Option String
  | .word32 => UInt32
  | .word64 => UInt64
  | .flag => Bool
  | .policy => NumericPolicy

namespace RpcConfig

inductive Field where
  | maxRetries
  | initialBackoffMs
  | maxBackoffMs
  | requestTimeoutMs

def Field.kind : Field → Kind
  | .maxRetries => .word32
  | .initialBackoffMs | .maxBackoffMs | .requestTimeoutMs => .word64

def get (c : RpcConfig) : (f : Field) → f.kind.Value
  | .maxRetries => c.maxRetries
  | .initialBackoffMs => c.initialBackoffMs
  | .maxBackoffMs => c.maxBackoffMs
  | .requestTimeoutMs => c.requestTimeoutMs

def ofValues (value : (f : Field) → f.kind.Value) : RpcConfig where
  maxRetries := value .maxRetries
  initialBackoffMs := value .initialBackoffMs
  maxBackoffMs := value .maxBackoffMs
  requestTimeoutMs := value .requestTimeoutMs

theorem get_ofValues (value : (f : Field) → f.kind.Value) (f : Field) :
    (ofValues value).get f = value f := by
  cases f <;> rfl

end RpcConfig

namespace PoolConfig

inductive Field where
  | maxConnections
  | minConnections
  | connectTimeoutSecs

def Field.kind : Field → Kind
  | .maxConnections | .minConnections => .word32
  | .connectTimeoutSecs => .word64

def get (c : PoolConfig) : (f : Field) → f.kind.Value
  | .maxConnections => c.maxConnections
  | .minConnections => c.minConnections
  | .connectTimeoutSecs => c.connectTimeoutSecs

def ofValues (value : (f : Field) → f.kind.Value) : PoolConfig where
  maxConnections := value .maxConnections
  minConnections := value .minConnections
  connectTimeoutSecs := value .connectTimeoutSecs

theorem get_ofValues (value : (f : Field) → f.kind.Value) (f : Field) :
    (ofValues value).get f = value f := by
  cases f <;> rfl

end PoolConfig

namespace IndexerConfig

/-- The fields outside of the two groups. -/
inductive OwnField where
  | databaseUrl
  | endpointUrl
  | chainId
  | tipPollIntervalMs
  | gapWindowSize
  | gapMaxWindows
  | gapWindowPauseMs
  | emptyQueueBackoffMs
  | numericPolicy
  | indexEmptyBlocks
  | startSequence
  | feedPollIntervalMs

def OwnField.kind : OwnField → Kind
  | .databaseUrl | .endpointUrl => .url
  | .chainId | .tipPollIntervalMs | .gapWindowSize | .gapMaxWindows | .gapWindowPauseMs
  | .emptyQueueBackoffMs | .startSequence | .feedPollIntervalMs => .word64
  | .numericPolicy => .policy
  | .indexEmptyBlocks => .flag

/-- The fields on both levels. -/
inductive Field where
  | own (f : OwnField)
  | rpc (f : RpcConfig.Field)
  | pool (f : PoolConfig.Field)

def Field.kind : Field → Kind
  | .own f => f.kind
  | .rpc f => f.kind
  | .pool f => f.kind

def get (c : IndexerConfig) : (f : Field) → f.kind.Value
  | .own .databaseUrl => c.databaseUrl
  | .own .endpointUrl => c.endpointUrl
  | .own .chainId => c.chainId
  | .own .tipPollIntervalMs => c.tipPollIntervalMs
  | .own .gapWindowSize => c.gapWindowSize
  | .own .gapMaxWindows => c.gapMaxWindows
  | .own .gapWindowPauseMs => c.gapWindowPauseMs
  | .own .emptyQueueBackoffMs => c.emptyQueueBackoffMs
  | .own .numericPolicy => c.numericPolicy
  | .own .indexEmptyBlocks => c.indexEmptyBlocks
  | .own .startSequence => c.startSequence
  | .own .feedPollIntervalMs => c.feedPollIntervalMs
  | .rpc f => c.rpc.get f
  | .pool f => c.pool.get f

def ofValues (value : (f : Field) → f.kind.Value) : IndexerConfig where
  databaseUrl := value (.own .databaseUrl)
  endpointUrl := value (.own .endpointUrl)
  chainId := value (.own .chainId)
  tipPollIntervalMs := value (.own .tipPollIntervalMs)
  gapWindowSize := value (.own .gapWindowSize)
  gapMaxWindows := value (.own .gapMaxWindows)
  gapWindowPauseMs := value (.own .gapWindowPauseMs)
  emptyQueueBackoffMs := value (.own .emptyQueueBackoffMs)
  numericPolicy := value (.own .numericPolicy)
  indexEmptyBlocks := value (.own .indexEmptyBlocks)
  startSequence := value (.own .startSequence)
  feedPollIntervalMs := value (.own .feedPollIntervalMs)
  rpc := .ofValues fun f => value (.rpc f)
  pool := .ofValues fun f => value (.pool f)

theorem get_ofValues (value : (f : Field) → f.kind.Value) (f : Field) :
    (ofValues value).get f = value f := by
  rcases f with f | f | f
  · cases f <;> rfl
  · exact RpcConfig.get_ofValues _ f
  · exact PoolConfig.get_ofValues _ f

theorem eq_of_get {c c' : IndexerConfig} (same : ∀ f, c.get f = c'.get f) : c = c' :=
  congrArg ofValues (funext same : c.get = c'.get)

end IndexerConfig

open IndexerConfig (Field)

/-! ### Settings -/

/-- What a setting makes of a field. The settings of a group make something of each field of it. -/
def Setting.value? : Setting → (f : Field) → Option f.kind.Value
  | .databaseUrl url, .own .databaseUrl => some (some url)
  | .endpointUrl url, .own .endpointUrl => some (some url)
  | .chainId id, .own .chainId => some id
  | .tipPollIntervalMs ms, .own .tipPollIntervalMs => some ms
  | .gapWindowSize size, .own .gapWindowSize => some size
  | .gapMaxWindows count, .own .gapMaxWindows => some count
  | .gapWindowPauseMs ms, .own .gapWindowPauseMs => some ms
  | .emptyQueueBackoffMs ms, .own .emptyQueueBackoffMs => some ms
  | .numericPolicy policy, .own .numericPolicy => some policy
  | .indexEmptyBlocks enabled, .own .indexEmptyBlocks => some enabled
  | .startSequence sequence, .own .startSequence => some sequence
  | .feedPollIntervalMs ms, .own .feedPollIntervalMs => some ms
  | .rpc config, .rpc f => some (config.get f)
  | .pool config, .pool f => some (config.get f)
  | _, _ => none

/-- What the last of the settings that change a field makes of it. -/
def lastValue? (settings : List Setting) (f : Field) : Option f.kind.Value :=
  settings.reverse.findSome? (·.value? f)

/-- No field is changed by both settings. -/
def Setting.Apart (s t : Setting) : Prop := ∀ f, s.value? f = none ∨ t.value? f = none

/-- What the overrides make of a field. -/
def Overrides.value? (o : Overrides) : (f : Field) → Option f.kind.Value
  | .own .databaseUrl => o.database.map some
  | .own .endpointUrl => o.endpoint.map some
  | _ => none

namespace IndexerConfig

theorem get_set (c : IndexerConfig) (s : Setting) (f : Field) :
    (c.set s).get f = (s.value? f).getD (c.get f) := by
  rcases f with f | f | f
  · cases s <;> cases f <;> rfl
  · cases s <;> rfl
  · cases s <;> rfl

theorem get_setAll (c : IndexerConfig) (settings : List Setting) (f : Field) :
    (c.setAll settings).get f = (lastValue? settings f).getD (c.get f) := by
  induction settings generalizing c with
  | nil => rfl
  | cons s settings ih =>
    -- The first setting counts only where none of the others does.
    have last : lastValue? (s :: settings) f = (lastValue? settings f).or (s.value? f) := by
      rw [lastValue?, List.reverse_cons, List.findSome?_append, List.findSome?_singleton]
      rfl
    rw [last, Option.getD_or, ← get_set]
    exact ih (c.set s)

theorem get_override (c : IndexerConfig) (o : Overrides) (f : Field) :
    (c.override o).get f = (o.value? f).getD (c.get f) := by
  obtain ⟨database, endpoint⟩ := o
  rcases f with f | f | f
  · cases f
    case databaseUrl => cases database <;> rfl
    case endpointUrl => cases endpoint <;> rfl
    all_goals rfl
  · rfl
  · rfl

/-- Settings that change no common field may change places. -/
theorem set_comm {s t : Setting} (apart : s.Apart t) (c : IndexerConfig) :
    (c.set s).set t = (c.set t).set s := by
  refine eq_of_get fun f => ?_
  rw [get_set, get_set, get_set, get_set]
  rcases apart f with unchanged | unchanged
  · rw [unchanged]
    rfl
  · rw [unchanged]
    rfl

end IndexerConfig

end BlockIndexer
