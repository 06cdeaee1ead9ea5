import BlockIndexer.Block.Decode
import BlockIndexer.Block.Encode
import BlockIndexer.Proofs.Json.Decode
import BlockIndexer.Proofs.Json.Grammar

/-! The ways to write a block. The members of each of its records stand in any order, under any of
their spellings and with others between them; a member with its usual value may be left out.
Hexadecimal digits have either case, and their marker may be missing; a quantity may stand as a
bare number. Whichever way a block is written, it is read back as it is. -/

namespace BlockIndexer

open Json (Document Layout Suits Value document)

/-! ### Values -/

/-- A value in its one usual form. -/
def Written {β : Type} (write : β → Value) (b : β) (d : Document) : Prop := d = document (write b)

def BytesSpell (bytes : List UInt8) (d : Document) : Prop :=
  ∃ s, d = .string (some s) ∧ Text.Hex.Spells bytes s.toList

def FixedBytes.Spells {n : Nat} (bytes : FixedBytes n) : Document → Prop := BytesSpell bytes.toList

/-- The literal as a text, or the number that it is the text of. -/
def Quantity.Spells (q : Quantity) (d : Document) : Prop :=
  d = .string (some q.literal) ∨ ∃ n : Json.Number, n.text = q.literal ∧ d = .number n

def OptionSpells {β : Type} (spells : β → Document → Prop) : Option β → Document → Prop
  | none, d => d = .null
  | some b, d => spells b d

def ListSpells {β : Type} (spells : β → Document → Prop) (bs : List β) (d : Document) : Prop :=
  ∃ ds, d = .array ds ∧ List.Forall₂ spells bs ds

/-- An object whose members are written as they may be. -/
def RecordSpells (slots : List (Slot Document)) (d : Document) : Prop :=
  ∃ ms, d.Lists ms ∧ ∀ slot ∈ slots, slot.Filled ms

section

variable {β : Type} {spells : β → Document → Prop} {read : Document → Option β} {d : Document}

theorem Written.reads {write : β → Value} {b : β} (reads : ∀ b, read (document (write b)) = some b)
    (written : Written write b d) : read d = some b :=
  (congrArg read written).trans (reads b)

theorem BytesSpell.bytes? {bytes : List UInt8} (spells : BytesSpell bytes d) :
    d.bytes? = some bytes := by
  obtain ⟨s, rfl, digits⟩ := spells
  exact Text.Hex.decode?_of_spells digits

theorem BytesSpell.suits {bytes : List UInt8} {layout : Layout} (spells : BytesSpell bytes d) :
    Suits layout d := by
  obtain ⟨s, rfl, _⟩ := spells
  simp only [Suits]

theorem FixedBytes.Spells.fixedBytes? {n : Nat} {bytes : FixedBytes n} (spells : bytes.Spells d) :
    d.fixedBytes? = some bytes := by
  have read := spells.bytes?
  obtain ⟨s, rfl, _⟩ := spells
  rw [Document.fixedBytes?, read, Option.bind_some, FixedBytes.ofList?, dif_pos bytes.length_eq]
  nofun

theorem FixedBytes.Spells.ne_null {n : Nat} {bytes : FixedBytes n} (spells : bytes.Spells d) :
    d ≠ .null := by
  obtain ⟨s, rfl, _⟩ := spells
  nofun

theorem FixedBytes.Spells.suits {n : Nat} {bytes : FixedBytes n} {layout : Layout}
    (spells : bytes.Spells d) : Suits layout d :=
  BytesSpell.suits spells

theorem Quantity.Spells.ofDocument? {q : Quantity} (spells : q.Spells d) (levels : Nat) :
    Quantity.ofDocument? levels d = some q := by
  rcases spells with rfl | ⟨n, text, rfl⟩
  · rfl
  · exact congrArg (fun text => some (Quantity.mk text)) text

theorem OptionSpells.nullable? {b : Option β} (written : OptionSpells spells b d)
    (reads : ∀ {b d}, spells b d → read d = some b) (present : ∀ {b d}, spells b d → d ≠ .null) :
    d.nullable? read = some b := by
  cases b with
  | none =>
    obtain rfl : d = .null := written
    rfl
  | some b =>
    have written : spells b d := written
    unfold Document.nullable?
    split
    next => exact absurd rfl (present written)
    next => rw [reads written, Option.map_some]

theorem OptionSpells.suits {b : Option β} {layout : Layout} (written : OptionSpells spells b d)
    (suits : ∀ {b d}, spells b d → Suits layout d) : Suits layout d := by
  cases b with
  | none =>
    obtain rfl : d = .null := written
    simp only [Suits]
  | some b => exact suits written

theorem ListSpells.array? {bs : List β} (written : ListSpells spells bs d)
    (reads : ∀ {b d}, spells b d → read d = some b) : d.array? read = some bs := by
  obtain ⟨ds, rfl, each⟩ := written
  rw [Document.array?]
  induction each with
  | nil => rfl
  | cons first _ ih =>
    rw [List.mapM_cons, reads first, ih]
    rfl

theorem ListSpells.suits {bs : List β} {item : Layout} (written : ListSpells spells bs d)
    (suits : ∀ {b d}, spells b d → Suits item d) : Suits (.list item) d := by
  obtain ⟨ds, rfl, each⟩ := written
  rw [Suits, Layout.items]
  refine Json.itemsSuit_each ?_
  induction each with
  | nil => nofun
  | cons first _ ih => exact List.forall_mem_cons.mpr ⟨suits first, ih⟩

theorem bytesSpell_document (bytes : List UInt8) :
    BytesSpell bytes (document (bytesValue bytes)) := by
  refine ⟨Text.Hex.text bytes, rfl, ?_⟩
  rw [Text.Hex.text, String.toList_ofList]
  exact Text.Hex.spells_encode bytes

theorem FixedBytes.spells_document {n : Nat} (bytes : FixedBytes n) :
    bytes.Spells (document bytes.toValue) :=
  bytesSpell_document bytes.toList

theorem Quantity.spells_document (q : Quantity) : q.Spells (document q.toValue) := .inl rfl

theorem optionSpells_document {write : β → Value} (each : ∀ b, spells b (document (write b)))
    (b : Option β) : OptionSpells spells b (document (Json.ofOption write b)) := by
  cases b with
  | none => rfl
  | some b => exact each b

theorem listSpells_document {write : β → Value} (each : ∀ b, spells b (document (write b)))
    (bs : List β) : ListSpells spells bs (document (.array (bs.map write))) := by
  refine ⟨Json.documents (bs.map write), rfl, ?_⟩
  induction bs with
  | nil => exact .nil
  | cons b bs ih => exact .cons (each b) ih

namespace RecordSpells

variable {slots : List (Slot Document)} {shape : Shape}

theorem fields? (written : RecordSpells slots d) (spelled : shape.WellSpelled)
    (same : slots.map (·.member) = shape.members) :
    ∃ fields, d.fields? shape = some fields ∧ ∀ slot ∈ slots, slot.Found fields := by
  obtain ⟨ms, lists, filled⟩ := written
  obtain ⟨fields, read, found⟩ := Slot.exists_fields spelled same filled
  exact ⟨fields, (Document.fields?_of_lists shape lists).trans read, found⟩

theorem ne_null (written : RecordSpells slots d) : d ≠ .null := by
  obtain ⟨ms, rfl, _⟩ := written
  nofun

theorem suits {layouts : List (String × Layout)} (written : RecordSpells slots d)
    (same : slots.map (·.member) = shape.members)
    (each : ∀ slot ∈ slots, ∀ d, slot.stands d → Suits (.named layouts slot.member.name) d) :
    Suits (.record shape layouts) d := by
  obtain ⟨ms, rfl, filled⟩ := written
  rw [Suits, Json.membersSuit_iff]
  intro m inside
  obtain ⟨⟨k, d⟩, listed, rfl⟩ := List.mem_map.mp inside
  rw [Layout.member]
  -- A member that the record knows fills its slot; any other may hold what it likes.
  cases found : shape.name? k with
  | none => exact Json.suits_free d
  | some name =>
    obtain ⟨m, known, accepts, rfl⟩ := Shape.exists_member_of_name? found
    obtain ⟨slot, present, rfl⟩ := List.mem_map.mp (same ▸ known)
    have given : d ∈ slot.member.given ms := Member.mem_given.mpr ⟨k, listed, accepts⟩
    cases filled slot present with
    | missing none =>
      rw [none] at given
      contradiction
    | once one stands =>
      rw [one] at given
      obtain rfl := List.mem_singleton.mp given
      exact each slot present d stands

end RecordSpells

end

/-! ### Records -/

namespace ExistingBlock

def slots (b : ExistingBlock) : List (Slot Document) :=
  [.required ⟨"near_hash", []⟩ (Written .string) b.nearHash,
    .required ⟨"near_parent_hash", []⟩ (Written .string) b.nearParentHash,
    .required ⟨"author", []⟩ (Written .string) b.author]

def Spells (b : ExistingBlock) : Document → Prop := RecordSpells b.slots

theorem shape_wellSpelled : shape.WellSpelled := ⟨by decide, by decide⟩

variable {b : ExistingBlock} {d : Document}

theorem Spells.ofDocument? (written : b.Spells d) : ofDocument? d = some b := by
  obtain ⟨fields, read, found⟩ := written.fields? shape_wellSpelled rfl
  simp only [slots, List.forall_mem_cons] at found
  obtain ⟨nearHash, nearParentHash, author, -⟩ := found
  rw [ExistingBlock.ofDocument?]
  refine Fields.bind_of_eq_some read ?_
  refine Fields.bind_of_eq_some (nearHash.required (Written.reads fun _ => rfl)) ?_
  refine Fields.bind_of_eq_some (nearParentHash.required (Written.reads fun _ => rfl)) ?_
  refine Fields.bind_of_eq_some (author.required (Written.reads fun _ => rfl)) ?_
  rfl

theorem spells_document (b : ExistingBlock) : b.Spells (document b.toValue) := by
  refine ⟨_, Document.lists_document _, ?_⟩
  simp only [slots, List.forall_mem_cons]
  exact ⟨.once rfl rfl, .once rfl rfl, .once rfl rfl, List.forall_mem_nil _⟩

end ExistingBlock

namespace NearBlock

inductive Spells : NearBlock → Document → Prop where
  | existing {b : ExistingBlock} {d : Document} (content : b.Spells d) :
      Spells (.existing b) (.object [(some "ExistingBlock", d)])
  | skipped : Spells .skipped (.string (some "SkippedBlock"))

variable {b : NearBlock} {d : Document}

theorem Spells.ofDocument? (written : b.Spells d) : ofDocument? d = some b := by
  cases written with
  | existing content => exact congrArg (Option.map NearBlock.existing) content.ofDocument?
  | skipped => rfl

theorem Spells.ne_null (written : b.Spells d) : d ≠ .null := by
  cases written <;> nofun

theorem spells_document (b : NearBlock) : b.Spells (document b.toValue) := by
  cases b with
  | existing b => exact .existing b.spells_document
  | skipped => exact .skipped

end NearBlock

namespace NearTransaction

def slots (t : NearTransaction) : List (Slot Document) :=
  [.usual ⟨"hash", []⟩ (Written .string) t.hash "",
    .usual ⟨"receipt_hash", []⟩ (Written .string) t.receiptHash ""]

def Spells (t : NearTransaction) : Document → Prop := RecordSpells t.slots

theorem shape_wellSpelled : shape.WellSpelled := ⟨by decide, by decide⟩

variable {t : NearTransaction} {d : Document}

theorem Spells.ofDocument? (written : t.Spells d) : ofDocument? d = some t := by
  obtain ⟨fields, read, found⟩ := written.fields? shape_wellSpelled rfl
  simp only [slots, List.forall_mem_cons] at found
  obtain ⟨hash, receiptHash, -⟩ := found
  rw [NearTransaction.ofDocument?]
  refine Fields.bind_of_eq_some read ?_
  refine Fields.bind_of_eq_some (hash.usual (Written.reads fun _ => rfl)) ?_
  refine Fields.bind_of_eq_some (receiptHash.usual (Written.reads fun _ => rfl)) ?_
  rfl

theorem spells_document (t : NearTransaction) : t.Spells (document t.toValue) := by
  refine ⟨_, Document.lists_document _, ?_⟩
  simp only [slots, List.forall_mem_cons]
  exact ⟨.once rfl rfl, .once rfl rfl, List.forall_mem_nil _⟩

end NearTransaction

namespace AccessListItem

def slots (item : AccessListItem) : List (Slot Document) :=
  [.required ⟨"address", []⟩ FixedBytes.Spells item.address,
    .usual ⟨"storageKeys", ["storage_keys"]⟩ (ListSpells FixedBytes.Spells) item.storageKeys []]

def Spells (item : AccessListItem) : Document → Prop := RecordSpells item.slots

theorem shape_wellSpelled : shape.WellSpelled := ⟨by decide, by decide⟩

variable {item : AccessListItem} {d : Document}

theorem Spells.ofDocument? (written : item.Spells d) : ofDocument? d = some item := by
  obtain ⟨fields, read, found⟩ := written.fields? shape_wellSpelled rfl
  simp only [slots, List.forall_mem_cons] at found
  obtain ⟨address, storageKeys, -⟩ := found
  rw [AccessListItem.ofDocument?]
  refine Fields.bind_of_eq_some read ?_
  refine Fields.bind_of_eq_some (address.required FixedBytes.Spells.fixedBytes?) ?_
  refine Fields.bind_of_eq_some
    (storageKeys.usual fun written => written.array? FixedBytes.Spells.fixedBytes?) ?_
  rfl

theorem Spells.suits (written : item.Spells d) : Suits layout d := by
  refine RecordSpells.suits written rfl ?_
  simp only [slots, List.forall_mem_cons]
  exact ⟨fun d address => FixedBytes.Spells.suits address,
    fun d storageKeys => storageKeys.suits FixedBytes.Spells.suits, List.forall_mem_nil _⟩

theorem spells_document (item : AccessListItem) : item.Spells (document item.toValue) := by
  refine ⟨_, Document.lists_document _, ?_⟩
  simp only [slots, List.forall_mem_cons]
  exact ⟨.once rfl item.address.spells_document,
    .once rfl (listSpells_document FixedBytes.spells_document item.storageKeys),
    List.forall_mem_nil _⟩

end AccessListItem

namespace Log

def slots (log : Log) : List (Slot Document) :=
  [.usual ⟨"address", ["Address"]⟩ FixedBytes.Spells log.address .zero,
    .usual ⟨"topics", ["Topics"]⟩ (ListSpells BytesSpell) log.topics [],
    .usual ⟨"data", []⟩ BytesSpell log.data []]

def Spells (log : Log) : Document → Prop := RecordSpells log.slots

theorem shape_wellSpelled : shape.WellSpelled := ⟨by decide, by decide⟩

variable {log : Log} {d : Document}

theorem Spells.ofDocument? (written : log.Spells d) : ofDocument? d = some log := by
  obtain ⟨fields, read, found⟩ := written.fields? shape_wellSpelled rfl
  simp only [slots, List.forall_mem_cons] at found
  obtain ⟨address, topics, data, -⟩ := found
  rw [Log.ofDocument?]
  refine Fields.bind_of_eq_some read ?_
  refine Fields.bind_of_eq_some (address.usual FixedBytes.Spells.fixedBytes?) ?_
  refine Fields.bind_of_eq_some (topics.usual fun written => written.array? BytesSpell.bytes?) ?_
  refine Fields.bind_of_eq_some (data.usual BytesSpell.bytes?) ?_
  rfl

theorem Spells.suits (written : log.Spells d) : Suits layout d := by
  refine RecordSpells.suits written rfl ?_
  simp only [slots, List.forall_mem_cons]
  exact ⟨fun d address => FixedBytes.Spells.suits address, fun d _ => Json.suits_free d,
    fun d _ => Json.suits_free d, List.forall_mem_nil _⟩

theorem spells_document (log : Log) : log.Spells (document log.toValue) := by
  refine ⟨_, Document.lists_document _, ?_⟩
  simp only [slots, List.forall_mem_cons]
  exact ⟨.once rfl log.address.spells_document,
    .once rfl (listSpells_document bytesSpell_document log.topics),
    .once rfl (bytesSpell_document log.data), List.forall_mem_nil _⟩

end Log

namespace Transaction

def slots (t : Transaction) : List (Slot Document) :=
  [.usual ⟨"hash", []⟩ FixedBytes.Spells t.hash .zero,
    .usual ⟨"block_hash", []⟩ FixedBytes.Spells t.blockHash .zero,
    .usual ⟨"block_height", []⟩ (Written fun n : UInt64 => Json.nat n.toNat) t.blockHeight 0,
    .usual ⟨"chain_id", []⟩ (Written fun n : UInt64 => Json.nat n.toNat) t.chainId 0,
    .usual ⟨"transaction_index", []⟩ (Written fun n : UInt32 => Json.nat n.toNat) t.index 0,
    .usual ⟨"from", []⟩ FixedBytes.Spells t.sender .zero,
    .usual ⟨"to", []⟩ (OptionSpells FixedBytes.Spells) t.recipient none,
    .usual ⟨"nonce", []⟩ Quantity.Spells t.nonce .absent,
    .usual ⟨"gas_price", []⟩ Quantity.Spells t.gasPrice .absent,
    .usual ⟨"gas_limit", []⟩ Quantity.Spells t.gasLimit .absent,
    .usual ⟨"gas_used", []⟩ (Written fun n : UInt64 => Json.nat n.toNat) t.gasUsed 0,
    .usual ⟨"max_priority_fee_per_gas", []⟩ Quantity.Spells t.maxPriorityFeePerGas .absent,
    .usual ⟨"max_fee_per_gas", []⟩ Quantity.Spells t.maxFeePerGas .absent,
    .usual ⟨"value", []⟩ Quantity.Spells t.value .absent,
    .usual ⟨"input", []⟩ BytesSpell t.input [],
    .usual ⟨"output", []⟩ BytesSpell t.output [],
    .usual ⟨"access_list", []⟩ (ListSpells AccessListItem.Spells) t.accessList [],
    .usual ⟨"tx_type", []⟩ (Written fun n : UInt8 => Json.nat n.toNat) t.txType 0,
    .usual ⟨"status", []⟩ (Written .bool) t.status false,
    .usual ⟨"logs", []⟩ (ListSpells Log.Spells) t.logs [],
    .usual ⟨"contract_address", []⟩ (OptionSpells FixedBytes.Spells) t.contractAddress none,
    .usual ⟨"v", []⟩ (Written fun n : UInt64 => Json.nat n.toNat) t.v 0,
    .usual ⟨"r", []⟩ Quantity.Spells t.r .absent,
    .usual ⟨"s", []⟩ Quantity.Spells t.s .absent,
    .usual ⟨"near_metadata", []⟩ (OptionSpells NearTransaction.Spells) t.near none]

def Spells (t : Transaction) : Document → Prop := RecordSpells t.slots

theorem shape_wellSpelled : shape.WellSpelled := ⟨by decide, by decide⟩

variable {t : Transaction} {d : Document}

theorem Spells.ofDocument? (written : t.Spells d) : ofDocument? d = some t := by
  obtain ⟨fields, read, found⟩ := written.fields? shape_wellSpelled rfl
  simp only [slots, List.forall_mem_cons] at found
  obtain ⟨hash, blockHash, blockHeight, chainId, index, sender, recipient, nonce, gasPrice,
    gasLimit, gasUsed, maxPriorityFeePerGas, maxFeePerGas, value, input, output, accessList, txType,
    status, logs, contractAddress, v, r, s, near, -⟩ := found
  have address {b : Option Address} {d : Document} (written : OptionSpells FixedBytes.Spells b d) :
      d.nullable? Document.fixedBytes? = some b :=
    written.nullable? FixedBytes.Spells.fixedBytes? FixedBytes.Spells.ne_null
  have quantity {q : Quantity} {d : Document} (written : q.Spells d) :
      Quantity.ofDocument? quantityDepth d = some q :=
    written.ofDocument? quantityDepth
  rw [Transaction.ofDocument?]
  refine Fields.bind_of_eq_some read ?_
  refine Fields.bind_of_eq_some (hash.usual FixedBytes.Spells.fixedBytes?) ?_
  refine Fields.bind_of_eq_some (blockHash.usual FixedBytes.Spells.fixedBytes?) ?_
  refine Fields.bind_of_eq_some (blockHeight.usual (Written.reads Document.uint64?_document)) ?_
  refine Fields.bind_of_eq_some (chainId.usual (Written.reads Document.uint64?_document)) ?_
  refine Fields.bind_of_eq_some (index.usual (Written.reads Document.uint32?_document)) ?_
  refine Fields.bind_of_eq_some (sender.usual FixedBytes.Spells.fixedBytes?) ?_
  refine Fields.bind_of_eq_some (recipient.usual address) ?_
  refine Fields.bind_of_eq_some (nonce.usual quantity) ?_
  refine Fields.bind_of_eq_some (gasPrice.usual quantity) ?_
  refine Fields.bind_of_eq_some (gasLimit.usual quantity) ?_
  refine Fields.bind_of_eq_some (gasUsed.usual (Written.reads Document.uint64?_document)) ?_
  refine Fields.bind_of_eq_some (maxPriorityFeePerGas.usual quantity) ?_
  refine Fields.bind_of_eq_some (maxFeePerGas.usual quantity) ?_
  refine Fields.bind_of_eq_some (value.usual quantity) ?_
  refine Fields.bind_of_eq_some (input.usual BytesSpell.bytes?) ?_
  refine Fields.bind_of_eq_some (output.usual BytesSpell.bytes?) ?_
  refine Fields.bind_of_eq_some
    (accessList.usual fun written => written.array? AccessListItem.Spells.ofDocument?) ?_
  refine Fields.bind_of_eq_some (txType.usual (Written.reads Document.uint8?_document)) ?_
  refine Fields.bind_of_eq_some (status.usual (Written.reads fun _ => rfl)) ?_
  refine Fields.bind_of_eq_some (logs.usual fun written => written.array? Log.Spells.ofDocument?) ?_
  refine Fields.bind_of_eq_some (contractAddress.usual address) ?_
  refine Fields.bind_of_eq_some (v.usual (Written.reads Document.uint64?_document)) ?_
  refine Fields.bind_of_eq_some (r.usual quantity) ?_
  refine Fields.bind_of_eq_some (s.usual quantity) ?_
  refine Fields.bind_of_eq_some (near.usual fun written =>
    written.nullable? NearTransaction.Spells.ofDocument? RecordSpells.ne_null) ?_
  rfl

theorem Spells.suits (written : t.Spells d) : Suits layout d := by
  have free (d : Document) {p : Prop} : p → Suits .free d := fun _ => Json.suits_free d
  refine RecordSpells.suits written rfl ?_
  simp only [slots, List.forall_mem_cons]
  exact ⟨fun d hash => FixedBytes.Spells.suits hash, fun d hash => FixedBytes.Spells.suits hash,
    fun d => free d, fun d => free d, fun d => free d,
    fun d sender => FixedBytes.Spells.suits sender,
    fun d recipient => recipient.suits FixedBytes.Spells.suits,
    fun d => free d, fun d => free d, fun d => free d, fun d => free d, fun d => free d,
    fun d => free d, fun d => free d, fun d => free d, fun d => free d,
    fun d accessList => accessList.suits AccessListItem.Spells.suits,
    fun d => free d, fun d => free d,
    fun d logs => logs.suits Log.Spells.suits,
    fun d contract => contract.suits FixedBytes.Spells.suits,
    fun d => free d, fun d => free d, fun d => free d, fun d => free d, List.forall_mem_nil _⟩

theorem spells_document (t : Transaction) : t.Spells (document t.toValue) := by
  refine ⟨_, Document.lists_document _, ?_⟩
  simp only [slots, List.forall_mem_cons]
  exact ⟨.once rfl t.hash.spells_document, .once rfl t.blockHash.spells_document, .once rfl rfl,
    .once rfl rfl, .once rfl rfl, .once rfl t.sender.spells_document,
    .once rfl (optionSpells_document FixedBytes.spells_document t.recipient),
    .once rfl t.nonce.spells_document, .once rfl t.gasPrice.spells_document,
    .once rfl t.gasLimit.spells_document, .once rfl rfl,
    .once rfl t.maxPriorityFeePerGas.spells_document, .once rfl t.maxFeePerGas.spells_document,
    .once rfl t.value.spells_document, .once rfl (bytesSpell_document t.input),
    .once rfl (bytesSpell_document t.output),
    .once rfl (listSpells_document AccessListItem.spells_document t.accessList), .once rfl rfl,
    .once rfl rfl, .once rfl (listSpells_document Log.spells_document t.logs),
    .once rfl (optionSpells_document FixedBytes.spells_document t.contractAddress), .once rfl rfl,
    .once rfl t.r.spells_document, .once rfl t.s.spells_document,
    .once rfl (optionSpells_document NearTransaction.spells_document t.near), List.forall_mem_nil _⟩

end Transaction

namespace Block

def slots (b : Block) : List (Slot Document) :=
  [.required ⟨"chain_id", []⟩ (Written fun n : UInt64 => Json.nat n.toNat) b.chainId,
    .required ⟨"hash", []⟩ FixedBytes.Spells b.hash,
    .required ⟨"parent_hash", []⟩ FixedBytes.Spells b.parentHash,
    .required ⟨"height", []⟩ (Written fun n : UInt64 => Json.nat n.toNat) b.height,
    .required ⟨"miner", []⟩ FixedBytes.Spells b.miner,
    .required ⟨"timestamp", []⟩ (Written fun i : Int64 => Json.int i.toInt) b.timestamp,
    .required ⟨"gas_limit", []⟩ Quantity.Spells b.gasLimit,
    .required ⟨"gas_used", []⟩ Quantity.Spells b.gasUsed,
    .usual ⟨"logs_bloom", []⟩ BytesSpell b.logsBloom [],
    .required ⟨"transactions_root", []⟩ FixedBytes.Spells b.transactionsRoot,
    .required ⟨"receipts_root", []⟩ FixedBytes.Spells b.receiptsRoot,
    .required ⟨"state_root", []⟩ FixedBytes.Spells b.stateRoot,
    .usual ⟨"size", []⟩ Quantity.Spells b.size .absent,
    .usual ⟨"transactions", []⟩ (ListSpells Transaction.Spells) b.transactions [],
    .usual ⟨"near_metadata", []⟩ (OptionSpells NearBlock.Spells) b.near none,
    .usual ⟨"sequence", []⟩ (OptionSpells (Written Json.nat)) b.sequence none]

def Spells (b : Block) : Document → Prop := RecordSpells b.slots

theorem shape_wellSpelled : shape.WellSpelled := ⟨by decide, by decide⟩

variable {b : Block} {d : Document}

theorem Spells.ofDocument? (written : b.Spells d) (fits : ∀ n ∈ b.sequence, FitsIn 64 n) :
    ofDocument? d = some b := by
  obtain ⟨fields, read, found⟩ := written.fields? shape_wellSpelled rfl
  simp only [slots, List.forall_mem_cons] at found
  obtain ⟨chainId, hash, parentHash, height, miner, timestamp, gasLimit, gasUsed, logsBloom,
    transactionsRoot, receiptsRoot, stateRoot, size, transactions, near, sequence, -⟩ := found
  have quantity {q : Quantity} {d : Document} (written : q.Spells d) :
      Quantity.ofDocument? quantityDepth d = some q :=
    written.ofDocument? quantityDepth
  have place {d : Document} (written : OptionSpells (Written Json.nat) b.sequence d) :
      d.nullable? (Document.nat? 64) = some b.sequence := by
    cases sequence : b.sequence with
    | none =>
      rw [sequence] at written
      obtain rfl : d = .null := written
      rfl
    | some n =>
      rw [sequence] at written
      obtain rfl : d = document (Json.nat n) := written
      exact congrArg (Option.map some) (Document.nat?_document (fits n sequence))
  rw [Block.ofDocument?]
  refine Fields.bind_of_eq_some read ?_
  refine Fields.bind_of_eq_some (chainId.required (Written.reads Document.uint64?_document)) ?_
  refine Fields.bind_of_eq_some (hash.required FixedBytes.Spells.fixedBytes?) ?_
  refine Fields.bind_of_eq_some (parentHash.required FixedBytes.Spells.fixedBytes?) ?_
  refine Fields.bind_of_eq_some (height.required (Written.reads Document.uint64?_document)) ?_
  refine Fields.bind_of_eq_some (miner.required FixedBytes.Spells.fixedBytes?) ?_
  refine Fields.bind_of_eq_some (timestamp.required (Written.reads Document.int64?_document)) ?_
  refine Fields.bind_of_eq_some (gasLimit.required quantity) ?_
  refine Fields.bind_of_eq_some (gasUsed.required quantity) ?_
  refine Fields.bind_of_eq_some (logsBloom.usual BytesSpell.bytes?) ?_
  refine Fields.bind_of_eq_some (transactionsRoot.required FixedBytes.Spells.fixedBytes?) ?_
  refine Fields.bind_of_eq_some (receiptsRoot.required FixedBytes.Spells.fixedBytes?) ?_
  refine Fields.bind_of_eq_some (stateRoot.required FixedBytes.Spells.fixedBytes?) ?_
  refine Fields.bind_of_eq_some (size.usual quantity) ?_
  refine Fields.bind_of_eq_some
    (transactions.usual fun written => written.array? Transaction.Spells.ofDocument?) ?_
  refine Fields.bind_of_eq_some (near.usual fun written =>
    written.nullable? NearBlock.Spells.ofDocument? NearBlock.Spells.ne_null) ?_
  refine Fields.bind_of_eq_some (sequence.usual place) ?_
  rfl

theorem Spells.suits (written : b.Spells d) : Suits layout d := by
  have free (d : Document) {p : Prop} : p → Suits .free d := fun _ => Json.suits_free d
  refine RecordSpells.suits written rfl ?_
  simp only [slots, List.forall_mem_cons]
  exact ⟨fun d => free d, fun d hash => FixedBytes.Spells.suits hash,
    fun d hash => FixedBytes.Spells.suits hash, fun d => free d,
    fun d miner => FixedBytes.Spells.suits miner, fun d => free d, fun d => free d,
    fun d => free d, fun d => free d, fun d root => FixedBytes.Spells.suits root,
    fun d root => FixedBytes.Spells.suits root, fun d root => FixedBytes.Spells.suits root,
    fun d => free d, fun d transactions => transactions.suits Transaction.Spells.suits,
    fun d => free d, fun d => free d, List.forall_mem_nil _⟩

/-- How a block is encoded is one of the ways to write it. -/
theorem spells_document (b : Block) : b.Spells (document b.toValue) := by
  refine ⟨_, Document.lists_document _, ?_⟩
  simp only [slots, List.forall_mem_cons]
  have place (n : Nat) : Written Json.nat n (document (Json.nat n)) := rfl
  exact ⟨.once rfl rfl, .once rfl b.hash.spells_document, .once rfl b.parentHash.spells_document,
    .once rfl rfl, .once rfl b.miner.spells_document, .once rfl rfl,
    .once rfl b.gasLimit.spells_document, .once rfl b.gasUsed.spells_document,
    .once rfl (bytesSpell_document b.logsBloom), .once rfl b.transactionsRoot.spells_document,
    .once rfl b.receiptsRoot.spells_document, .once rfl b.stateRoot.spells_document,
    .once rfl b.size.spells_document,
    .once rfl (listSpells_document Transaction.spells_document b.transactions),
    .once rfl (optionSpells_document NearBlock.spells_document b.near),
    .once rfl (optionSpells_document place b.sequence), List.forall_mem_nil _⟩

end Block

end BlockIndexer
