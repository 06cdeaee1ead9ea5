import BlockIndexer.Proofs.Config.Field
import BlockIndexer.Proofs.Json.Decode

/-! What a document gives for the fields of a configuration. Its members stand in any order, under
any of their spellings and with others between them; a group that is given in part, or not at all,
leaves its other fields to their usual values. -/

namespace BlockIndexer

open Json (Value document)

/-- A notation whose records may list members by their names. -/
class RecordNotation (α : Type) extends ConfigDocument α where
  Lists : α → List (String × α) → Prop
  fields?_of_lists : ∀ {a : α} {ms : List (String × α)} (shape : Shape), Lists a ms →
    fields? shape a = shape.named? ms

/-! ### Notations -/

namespace Json.Document

instance : RecordNotation Document where
  Lists := Lists
  fields?_of_lists := fields?_of_lists

end Json.Document

namespace Yaml.Element

/-- An entry of a mapping writes a member. -/
def Writes (d : Document) (entry : Yaml × Yaml) (m : String × Element) : Prop :=
  (∃ s, scalar? ⟨d, entry.1⟩ = some s ∧ s.text = m.1) ∧ m.2 = ⟨d, entry.2⟩

/-- A mapping lists its entries, and where nothing is written no members are listed. -/
inductive Lists (e : Element) : List (String × Element) → Prop
  | mapping {entries : List (Yaml × Yaml)} {ms : List (String × Element)}
      (stands : e.document.resolve e.node = .mapping entries)
      (write : List.Forall₂ (Writes e.document) entries ms) : Lists e ms
  | nothing {s : Scalar} (stands : e.document.resolve e.node = .scalar s)
      (nothing : s.isNothing = true) : Lists e []

theorem fields?_of_lists {e : Element} {ms : List (String × Element)} (shape : Shape)
    (lists : e.Lists ms) : e.fields? shape = shape.named? ms := by
  cases lists with
  | nothing stands nothing =>
    rw [fields?, stands]
    exact if_pos nothing
  | mapping stands write =>
    rw [fields?, stands]
    refine Fields.bind_of_eq_some ?_ rfl
    clear stands
    induction write with
    | nil => rfl
    | @cons entry m entries ms first rest ih =>
      obtain ⟨key, value⟩ := entry
      obtain ⟨⟨s, read, text⟩, element⟩ := first
      rw [List.mapM_cons, ih]
      dsimp only at read element ⊢
      rw [read, Option.map_some, text, ← element]
      rfl

instance : RecordNotation Element where
  Lists := Lists
  fields?_of_lists := fields?_of_lists

end Yaml.Element

/-! ### Fields of records -/

open RecordNotation

/-- How a value of a kind is read. -/
def Kind.read? {α : Type} [ConfigDocument α] : (k : Kind) → α → Option k.Value
  | .url => ConfigDocument.optionalText?
  | .word32 => ConfigDocument.uint32?
  | .word64 => ConfigDocument.uint64?
  | .flag => ConfigDocument.flag?
  | .policy => ConfigDocument.policy?

section

variable {α : Type} [RecordNotation α]

/-- A record whose members are written as they may be. -/
def Fills (a : α) (slots : List (Slot α)) : Prop :=
  ∃ ms, Lists a ms ∧ ∀ slot ∈ slots, slot.Filled ms

/-- A field that is given this value, or none and is left out. -/
def Kind.slot (member : Member) (k : Kind) (given : Option k.Value) : Slot α where
  member
  stands a := ∃ v, given = some v ∧ k.read? a = some v
  omitted := given = none

namespace RpcConfig

def Field.member : Field → Member
  | .maxRetries => ⟨"max_retries", []⟩
  | .initialBackoffMs => ⟨"initial_backoff_ms", []⟩
  | .maxBackoffMs => ⟨"max_backoff_ms", []⟩
  | .requestTimeoutMs => ⟨"request_timeout_ms", []⟩

def slots (given : (f : Field) → Option f.kind.Value) : List (Slot α) :=
  [.maxRetries, .initialBackoffMs, .maxBackoffMs, .requestTimeoutMs].map fun f : Field =>
    f.kind.slot f.member (given f)

end RpcConfig

namespace PoolConfig

def Field.member : Field → Member
  | .maxConnections => ⟨"max_connections", []⟩
  | .minConnections => ⟨"min_connections", []⟩
  | .connectTimeoutSecs => ⟨"connect_timeout_secs", []⟩

def slots (given : (f : Field) → Option f.kind.Value) : List (Slot α) :=
  [.maxConnections, .minConnections, .connectTimeoutSecs].map fun f : Field =>
    f.kind.slot f.member (given f)

end PoolConfig

namespace IndexerConfig

def OwnField.member : OwnField → Member
  | .databaseUrl => ⟨"database_url", ["database"]⟩
  | .endpointUrl => ⟨"endpoint_url", ["endpoint"]⟩
  | .chainId => ⟨"chain_id", []⟩
  | .tipPollIntervalMs => ⟨"tip_poll_interval_ms", []⟩
  | .gapWindowSize => ⟨"gap_window_size", []⟩
  | .gapMaxWindows => ⟨"gap_max_windows", []⟩
  | .gapWindowPauseMs => ⟨"gap_window_pause_ms", []⟩
  | .emptyQueueBackoffMs => ⟨"empty_queue_backoff_ms", []⟩
  | .numericPolicy => ⟨"numeric_policy", []⟩
  | .indexEmptyBlocks => ⟨"index_empty_blocks", []⟩
  | .startSequence => ⟨"start_sequence", []⟩
  | .feedPollIntervalMs => ⟨"feed_poll_interval_ms", []⟩

def OwnField.all : List OwnField :=
  [.databaseUrl, .endpointUrl, .chainId, .tipPollIntervalMs, .gapWindowSize, .gapMaxWindows,
    .gapWindowPauseMs, .emptyQueueBackoffMs, .numericPolicy, .indexEmptyBlocks, .startSequence,
    .feedPollIntervalMs]

variable (given : (f : Field) → Option f.kind.Value)

def rpcSlot : Slot α where
  member := ⟨"rpc", []⟩
  stands a := Fills a (RpcConfig.slots fun f => given (.rpc f))
  omitted := ∀ f, given (.rpc f) = none

def poolSlot : Slot α where
  member := ⟨"postgres", []⟩
  stands a := Fills a (PoolConfig.slots fun f => given (.pool f))
  omitted := ∀ f, given (.pool f) = none

def slots : List (Slot α) :=
  OwnField.all.map (fun f => f.kind.slot f.member (given (.own f))) ++
    [rpcSlot given, poolSlot given]

/-- The document gives these values for the fields on both levels, and no others. -/
def Gives (a : α) (given : (f : Field) → Option f.kind.Value) : Prop := Fills a (slots given)

end IndexerConfig

/-! ### Reading -/

theorem Fills.fields? {a : α} {slots : List (Slot α)} {shape : Shape} (fills : Fills a slots)
    (spelled : shape.WellSpelled) (same : slots.map (·.member) = shape.members) :
    ∃ fields, ConfigDocument.fields? shape a = some fields ∧ ∀ slot ∈ slots, slot.Found fields := by
  obtain ⟨ms, lists, filled⟩ := fills
  obtain ⟨fields, read, found⟩ := Slot.exists_fields spelled same filled
  exact ⟨fields, (fields?_of_lists shape lists).trans read, found⟩

theorem Kind.orElse? {k : Kind} {member : Member} {given : Option k.Value} {fields : Fields α}
    (found : (k.slot member given).Found fields) (default : k.Value) :
    fields.orElse? member.name default k.read? = some (given.getD default) := by
  refine found.orElse? (fun omitted => ?_) fun a stands => ?_
  · rw [show given = none from omitted, Option.getD_none]
  · obtain ⟨v, rfl, read⟩ := stands
    exact read

namespace RpcConfig

theorem shape_wellSpelled : shape.WellSpelled := ⟨by decide, by decide⟩

theorem ofDocument?_of_fills {a : α} {given : (f : Field) → Option f.kind.Value}
    (fills : Fills a (slots given)) :
    ofDocument? a = some (ofValues fun f => (given f).getD (default.get f)) := by
  obtain ⟨fields, read, found⟩ := fills.fields? shape_wellSpelled rfl
  simp only [slots, List.map_cons, List.map_nil, List.forall_mem_cons] at found
  obtain ⟨maxRetries, initialBackoffMs, maxBackoffMs, requestTimeoutMs, -⟩ := found
  rw [ofDocument?]
  refine Fields.bind_of_eq_some read ?_
  refine Fields.bind_of_eq_some (Kind.orElse? maxRetries _) ?_
  refine Fields.bind_of_eq_some (Kind.orElse? initialBackoffMs _) ?_
  refine Fields.bind_of_eq_some (Kind.orElse? maxBackoffMs _) ?_
  refine Fields.bind_of_eq_some (Kind.orElse? requestTimeoutMs _) ?_
  rfl

end RpcConfig

namespace PoolConfig

theorem shape_wellSpelled : shape.WellSpelled := ⟨by decide, by decide⟩

theorem ofDocument?_of_fills {a : α} {given : (f : Field) → Option f.kind.Value}
    (fills : Fills a (slots given)) :
    ofDocument? a = some (ofValues fun f => (given f).getD (default.get f)) := by
  obtain ⟨fields, read, found⟩ := fills.fields? shape_wellSpelled rfl
  simp only [slots, List.map_cons, List.map_nil, List.forall_mem_cons] at found
  obtain ⟨maxConnections, minConnections, connectTimeoutSecs, -⟩ := found
  rw [ofDocument?]
  refine Fields.bind_of_eq_some read ?_
  refine Fields.bind_of_eq_some (Kind.orElse? maxConnections _) ?_
  refine Fields.bind_of_eq_some (Kind.orElse? minConnections _) ?_
  refine Fields.bind_of_eq_some (Kind.orElse? connectTimeoutSecs _) ?_
  rfl

end PoolConfig

namespace IndexerConfig

variable {given : (f : Field) → Option f.kind.Value}

theorem shape_wellSpelled : shape.WellSpelled := ⟨by decide, by decide⟩

/-- A group that is left out has its usual values, as one that is given without any fields. -/
theorem rpc?_of_found {fields : Fields α} (found : (rpcSlot given).Found fields) :
    fields.orElse? "rpc" RpcConfig.default RpcConfig.ofDocument? =
      some (.ofValues fun f => (given (.rpc f)).getD (RpcConfig.default.get f)) := by
  refine found.orElse? (fun omitted => ?_) fun a fills => RpcConfig.ofDocument?_of_fills fills
  have usual (f : RpcConfig.Field) :
      RpcConfig.default.get f = (given (.rpc f)).getD (RpcConfig.default.get f) := by
    rw [omitted f]
    rfl
  exact congrArg RpcConfig.ofValues (funext usual)

theorem pool?_of_found {fields : Fields α} (found : (poolSlot given).Found fields) :
    fields.orElse? "postgres" PoolConfig.default PoolConfig.ofDocument? =
      some (.ofValues fun f => (given (.pool f)).getD (PoolConfig.default.get f)) := by
  refine found.orElse? (fun omitted => ?_) fun a fills => PoolConfig.ofDocument?_of_fills fills
  have usual (f : PoolConfig.Field) :
      PoolConfig.default.get f = (given (.pool f)).getD (PoolConfig.default.get f) := by
    rw [omitted f]
    rfl
  exact congrArg PoolConfig.ofValues (funext usual)

/-- A document is read with the values that it gives, and the usual ones for the other fields. -/
theorem ofDocument?_of_gives {a : α} (gives : Gives a given) :
    ofDocument? a = some (ofValues fun f => (given f).getD (default.get f)) := by
  obtain ⟨fields, read, found⟩ := Fills.fields? gives shape_wellSpelled rfl
  simp only [slots, OwnField.all, List.map_cons, List.map_nil, List.cons_append, List.nil_append,
    List.forall_mem_cons] at found
  obtain ⟨databaseUrl, endpointUrl, chainId, tipPollIntervalMs, gapWindowSize, gapMaxWindows,
    gapWindowPauseMs, emptyQueueBackoffMs, numericPolicy, indexEmptyBlocks, startSequence,
    feedPollIntervalMs, rpc, pool, -⟩ := found
  rw [ofDocument?]
  refine Fields.bind_of_eq_some read ?_
  refine Fields.bind_of_eq_some (Kind.orElse? databaseUrl _) ?_
  refine Fields.bind_of_eq_some (Kind.orElse? endpointUrl _) ?_
  refine Fields.bind_of_eq_some (Kind.orElse? chainId _) ?_
  refine Fields.bind_of_eq_some (Kind.orElse? tipPollIntervalMs _) ?_
  refine Fields.bind_of_eq_some (Kind.orElse? gapWindowSize _) ?_
  refine Fields.bind_of_eq_some (Kind.orElse? gapMaxWindows _) ?_
  refine Fields.bind_of_eq_some (Kind.orElse? gapWindowPauseMs _) ?_
  refine Fields.bind_of_eq_some (Kind.orElse? emptyQueueBackoffMs _) ?_
  refine Fields.bind_of_eq_some (Kind.orElse? numericPolicy _) ?_
  refine Fields.bind_of_eq_some (Kind.orElse? indexEmptyBlocks _) ?_
  refine Fields.bind_of_eq_some (Kind.orElse? startSequence _) ?_
  refine Fields.bind_of_eq_some (Kind.orElse? feedPollIntervalMs _) ?_
  refine Fields.bind_of_eq_some (rpc?_of_found rpc) ?_
  refine Fields.bind_of_eq_some (pool?_of_found pool) ?_
  rfl

end IndexerConfig

end

end BlockIndexer
