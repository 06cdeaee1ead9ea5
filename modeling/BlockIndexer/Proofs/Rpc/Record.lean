import BlockIndexer.Proofs.Json.Record
import BlockIndexer.Rpc.Block

/-! What a node's records say. Each field of a block, a transaction, a receipt or a log is read of
one member, which has one name and is read in one way; a member that a node may leave out has a
usual value, and there is no other way to such a record. -/

namespace BlockIndexer.Rpc

open Json (Document)

variable {d : Document}

namespace NodeLog

def slots (log : NodeLog) : List (Slot Document) :=
  [.required ⟨"address", []⟩ (Reads Document.fixedBytes?) log.address,
    .usual ⟨"topics", []⟩ (Reads (Document.array? Document.fixedBytes?)) log.topics [],
    .usual ⟨"data", []⟩ (Reads Document.bytes?) log.data []]

theorem shape_wellSpelled : shape.WellSpelled := ⟨by decide, by decide⟩

theorem ofDocument?_eq_some_iff {log : NodeLog} :
    ofDocument? d = some log ↔ d.Fills shape log.slots := by
  refine Slot.bind_eq_some_iff_fills shape_wellSpelled rfl fun fields => ?_
  simp only [slots, List.forall_mem_cons, ← Slot.required?_eq_some_iff, ← Slot.orElse?_eq_some_iff]
  constructor
  · -- The fields are read in the order of their slots, each before the next.
    intro read
    iterate 3 obtain ⟨_, _, read⟩ := Option.bind_eq_some_iff.mp read
    cases read
    and_intros <;> first | assumption | exact List.forall_mem_nil _
  · intro found
    casesm* _ ∧ _
    iterate 3 refine Fields.bind_of_eq_some (by assumption) ?_
    rfl

end NodeLog

namespace Receipt

def slots (receipt : Receipt) : List (Slot Document) :=
  [.required ⟨"gasUsed", []⟩ (Reads word?) receipt.gasUsed,
    .usual ⟨"status", []⟩ (Reads word?) receipt.status 0,
    .usual ⟨"logs", []⟩ (Reads (Document.array? NodeLog.ofDocument?)) receipt.logs [],
    .usual ⟨"contractAddress", []⟩ (Reads (Document.nullable? Document.fixedBytes?))
      receipt.contractAddress none]

theorem shape_wellSpelled : shape.WellSpelled := ⟨by decide, by decide⟩

theorem ofDocument?_eq_some_iff {receipt : Receipt} :
    ofDocument? d = some receipt ↔ d.Fills shape receipt.slots := by
  refine Slot.bind_eq_some_iff_fills shape_wellSpelled rfl fun fields => ?_
  simp only [slots, List.forall_mem_cons, ← Slot.required?_eq_some_iff, ← Slot.orElse?_eq_some_iff]
  constructor
  · intro read
    iterate 4 obtain ⟨_, _, read⟩ := Option.bind_eq_some_iff.mp read
    cases read
    and_intros <;> first | assumption | exact List.forall_mem_nil _
  · intro found
    casesm* _ ∧ _
    iterate 4 refine Fields.bind_of_eq_some (by assumption) ?_
    rfl

end Receipt

namespace NodeTransaction

def slots (t : NodeTransaction) : List (Slot Document) :=
  [.required ⟨"hash", []⟩ (Reads Document.fixedBytes?) t.hash,
    .usual ⟨"blockHash", []⟩ (Reads Document.fixedBytes?) t.blockHash .zero,
    .required ⟨"transactionIndex", []⟩ (Reads word?) t.index,
    .required ⟨"from", []⟩ (Reads Document.fixedBytes?) t.sender,
    .usual ⟨"to", []⟩ (Reads (Document.nullable? Document.fixedBytes?)) t.recipient none,
    .required ⟨"nonce", []⟩ (Reads quantity?) t.nonce,
    .usual ⟨"gasPrice", []⟩ (Reads quantity?) t.gasPrice .absent,
    .required ⟨"gas", []⟩ (Reads quantity?) t.gas,
    .required ⟨"value", []⟩ (Reads quantity?) t.value,
    .usual ⟨"input", []⟩ (Reads Document.bytes?) t.input [],
    .usual ⟨"v", []⟩ (Reads word?) t.v 0,
    .usual ⟨"r", []⟩ (Reads quantity?) t.r .absent,
    .usual ⟨"s", []⟩ (Reads quantity?) t.s .absent,
    .usual ⟨"type", []⟩ (Reads word?) t.txType 0,
    .usual ⟨"maxFeePerGas", []⟩ (Reads quantity?) t.maxFeePerGas .absent,
    .usual ⟨"maxPriorityFeePerGas", []⟩ (Reads quantity?) t.maxPriorityFeePerGas .absent,
    .usual ⟨"accessList", []⟩ (Reads (Document.array? AccessListItem.ofDocument?))
      t.accessList []]

theorem shape_wellSpelled : shape.WellSpelled := ⟨by decide, by decide⟩

theorem ofDocument?_eq_some_iff {t : NodeTransaction} :
    ofDocument? d = some t ↔ d.Fills shape t.slots := by
  refine Slot.bind_eq_some_iff_fills shape_wellSpelled rfl fun fields => ?_
  simp only [slots, List.forall_mem_cons, ← Slot.required?_eq_some_iff, ← Slot.orElse?_eq_some_iff]
  constructor
  · intro read
    iterate 17 obtain ⟨_, _, read⟩ := Option.bind_eq_some_iff.mp read
    cases read
    and_intros <;> first | assumption | exact List.forall_mem_nil _
  · intro found
    casesm* _ ∧ _
    iterate 17 refine Fields.bind_of_eq_some (by assumption) ?_
    rfl

end NodeTransaction

namespace NodeBlock

def slots (b : NodeBlock) : List (Slot Document) :=
  [.required ⟨"number", []⟩ (Reads word?) b.number,
    .required ⟨"hash", []⟩ (Reads Document.fixedBytes?) b.hash,
    .required ⟨"parentHash", []⟩ (Reads Document.fixedBytes?) b.parentHash,
    .required ⟨"miner", []⟩ (Reads Document.fixedBytes?) b.miner,
    .required ⟨"timestamp", []⟩ (Reads word?) b.timestamp,
    .required ⟨"gasLimit", []⟩ (Reads quantity?) b.gasLimit,
    .required ⟨"gasUsed", []⟩ (Reads quantity?) b.gasUsed,
    .usual ⟨"logsBloom", []⟩ (Reads Document.bytes?) b.logsBloom [],
    .required ⟨"transactionsRoot", []⟩ (Reads Document.fixedBytes?) b.transactionsRoot,
    .required ⟨"receiptsRoot", []⟩ (Reads Document.fixedBytes?) b.receiptsRoot,
    .required ⟨"stateRoot", []⟩ (Reads Document.fixedBytes?) b.stateRoot,
    .usual ⟨"size", []⟩ (Reads quantity?) b.size .absent,
    .usual ⟨"transactions", []⟩ (Reads (Document.array? NodeTransaction.ofDocument?))
      b.transactions []]

theorem shape_wellSpelled : shape.WellSpelled := ⟨by decide, by decide⟩

theorem ofDocument?_eq_some_iff {b : NodeBlock} :
    ofDocument? d = some b ↔ d.Fills shape b.slots := by
  refine Slot.bind_eq_some_iff_fills shape_wellSpelled rfl fun fields => ?_
  simp only [slots, List.forall_mem_cons, ← Slot.required?_eq_some_iff, ← Slot.orElse?_eq_some_iff]
  constructor
  · intro read
    iterate 13 obtain ⟨_, _, read⟩ := Option.bind_eq_some_iff.mp read
    cases read
    and_intros <;> first | assumption | exact List.forall_mem_nil _
  · intro found
    casesm* _ ∧ _
    iterate 13 refine Fields.bind_of_eq_some (by assumption) ?_
    rfl

end NodeBlock

end BlockIndexer.Rpc
