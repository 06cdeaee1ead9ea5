import BlockIndexer.Proofs.Block.RoundTrip
import BlockIndexer.Proofs.Json.Record

/-! What texts blocks are read from. Every text that writes a block, in whichever way, is read as
this block. No block is read from a text in which one of the records of a block gives a member
twice, or in which the block leaves out a member that has no usual value. -/

namespace BlockIndexer

open Json (Document Suits Value document)
open Text (Symbol)

/-! ### Records that give a member twice -/

namespace Transaction

/-- The transaction gives a member twice, or one of the records inside it does. -/
inductive Repeats (d : Document) : Prop where
  | own (twice : d.RepeatsMember shape)
  | accessList {item : Document} (inside : d.GivesItem shape ⟨"access_list", []⟩ item)
      (twice : item.RepeatsMember AccessListItem.shape)
  | logs {log : Document} (inside : d.GivesItem shape ⟨"logs", []⟩ log)
      (twice : log.RepeatsMember Log.shape)
  | near {near : Document} (given : near ∈ d.given shape ⟨"near_metadata", []⟩)
      (twice : near.RepeatsMember NearTransaction.shape)

variable {d : Document} {t : Transaction}

theorem parts_of_ofDocument? (read : ofDocument? d = some t) :
    ∃ fields, d.fields? shape = some fields ∧
      fields.orElse? "access_list" [] (Document.array? AccessListItem.ofDocument?) =
        some t.accessList ∧
      fields.orElse? "logs" [] (Document.array? Log.ofDocument?) = some t.logs ∧
      fields.orElse? "near_metadata" none (Document.nullable? NearTransaction.ofDocument?) =
        some t.near := by
  obtain ⟨fields, own, read⟩ := Option.bind_eq_some_iff.mp read
  -- Of the members, in their order, only three hold other records.
  iterate 16 obtain ⟨_, _, read⟩ := Option.bind_eq_some_iff.mp read
  obtain ⟨_, accessList, read⟩ := Option.bind_eq_some_iff.mp read
  iterate 2 obtain ⟨_, _, read⟩ := Option.bind_eq_some_iff.mp read
  obtain ⟨_, logs, read⟩ := Option.bind_eq_some_iff.mp read
  iterate 4 obtain ⟨_, _, read⟩ := Option.bind_eq_some_iff.mp read
  obtain ⟨_, near, read⟩ := Option.bind_eq_some_iff.mp read
  obtain rfl := Option.some.inj read
  exact ⟨fields, own, accessList, logs, near⟩

theorem ofDocument?_of_repeats (repeats : Repeats d) : ofDocument? d = none := by
  refine Option.eq_none_iff_forall_ne_some.mpr fun t read => ?_
  obtain ⟨fields, own, accessList, logs, near⟩ := parts_of_ofDocument? read
  cases repeats with
  | own twice => exact Document.not_repeatsMember_of_bind shape_wellSpelled read twice
  | accessList inside twice =>
    obtain ⟨item, read⟩ := Document.exists_of_givesItem shape_wellSpelled (by decide) own inside
      accessList
    exact Document.not_repeatsMember_of_bind AccessListItem.shape_wellSpelled read twice
  | logs inside twice =>
    obtain ⟨log, read⟩ := Document.exists_of_givesItem shape_wellSpelled (by decide) own inside logs
    exact Document.not_repeatsMember_of_bind Log.shape_wellSpelled read twice
  | near given twice =>
    obtain ⟨near, read⟩ := Document.exists_of_given shape_wellSpelled (by decide) own given
      twice.ne_null near
    exact Document.not_repeatsMember_of_bind NearTransaction.shape_wellSpelled read twice

end Transaction

namespace Block

/-- The members of a block that have no usual value. -/
def required : List String :=
  ["chain_id", "hash", "parent_hash", "height", "miner", "timestamp", "gas_limit", "gas_used",
    "transactions_root", "receipts_root", "state_root"]

/-- The block gives a member twice, or one of the records inside it does. -/
inductive Repeats (d : Document) : Prop where
  | own (twice : d.RepeatsMember shape)
  | transactions {t : Document} (inside : d.GivesItem shape ⟨"transactions", []⟩ t)
      (twice : Transaction.Repeats t)
  | near {content : Document}
      (given : .object [(some "ExistingBlock", content)] ∈ d.given shape ⟨"near_metadata", []⟩)
      (twice : content.RepeatsMember ExistingBlock.shape)

/-- The block does not give a member that has no usual value. -/
def Lacks (d : Document) : Prop := ∃ name ∈ required, d.given shape ⟨name, []⟩ = []

variable {d : Document} {b : Block}

theorem parts_of_ofDocument? (read : ofDocument? d = some b) :
    ∃ fields, d.fields? shape = some fields ∧ (∀ name ∈ required, fields.lookup name ≠ none) ∧
      fields.required? "timestamp" Document.int64? = some b.timestamp ∧
      fields.orElse? "transactions" [] (Document.array? Transaction.ofDocument?) =
        some b.transactions ∧
      fields.orElse? "near_metadata" none (Document.nullable? NearBlock.ofDocument?) =
        some b.near := by
  obtain ⟨fields, own, read⟩ := Option.bind_eq_some_iff.mp read
  obtain ⟨_, chainId, read⟩ := Option.bind_eq_some_iff.mp read
  obtain ⟨_, hash, read⟩ := Option.bind_eq_some_iff.mp read
  obtain ⟨_, parentHash, read⟩ := Option.bind_eq_some_iff.mp read
  obtain ⟨_, height, read⟩ := Option.bind_eq_some_iff.mp read
  obtain ⟨_, miner, read⟩ := Option.bind_eq_some_iff.mp read
  obtain ⟨_, timestamp, read⟩ := Option.bind_eq_some_iff.mp read
  obtain ⟨_, gasLimit, read⟩ := Option.bind_eq_some_iff.mp read
  obtain ⟨_, gasUsed, read⟩ := Option.bind_eq_some_iff.mp read
  obtain ⟨_, _, read⟩ := Option.bind_eq_some_iff.mp read
  obtain ⟨_, transactionsRoot, read⟩ := Option.bind_eq_some_iff.mp read
  obtain ⟨_, receiptsRoot, read⟩ := Option.bind_eq_some_iff.mp read
  obtain ⟨_, stateRoot, read⟩ := Option.bind_eq_some_iff.mp read
  obtain ⟨_, _, read⟩ := Option.bind_eq_some_iff.mp read
  obtain ⟨_, transactions, read⟩ := Option.bind_eq_some_iff.mp read
  obtain ⟨_, near, read⟩ := Option.bind_eq_some_iff.mp read
  obtain ⟨_, _, read⟩ := Option.bind_eq_some_iff.mp read
  obtain rfl := Option.some.inj read
  have present {β : Type} {name : String} {reads : Document → Option β} {b : β}
      (read : fields.required? name reads = some b) : fields.lookup name ≠ none := by
    obtain ⟨content, found, _⟩ := Option.bind_eq_some_iff.mp read
    exact found ▸ Option.some_ne_none content
  refine ⟨fields, own, ?_, timestamp, transactions, near⟩
  simp only [required, List.forall_mem_cons]
  exact ⟨present chainId, present hash, present parentHash, present height, present miner,
    present timestamp, present gasLimit, present gasUsed, present transactionsRoot,
    present receiptsRoot, present stateRoot, List.forall_mem_nil _⟩

theorem ofDocument?_of_repeats (repeats : Repeats d) : ofDocument? d = none := by
  refine Option.eq_none_iff_forall_ne_some.mpr fun b read => ?_
  obtain ⟨fields, own, _, -, transactions, near⟩ := parts_of_ofDocument? read
  cases repeats with
  | own twice => exact Document.not_repeatsMember_of_bind shape_wellSpelled read twice
  | transactions inside twice =>
    obtain ⟨t, read⟩ := Document.exists_of_givesItem shape_wellSpelled (by decide) own inside
      transactions
    rw [Transaction.ofDocument?_of_repeats twice] at read
    contradiction
  | near given twice =>
    obtain ⟨near, read⟩ := Document.exists_of_given shape_wellSpelled (by decide) own given nofun
      near
    obtain ⟨_, read, _⟩ := Option.map_eq_some_iff.mp read
    exact Document.not_repeatsMember_of_bind ExistingBlock.shape_wellSpelled read twice

theorem ofDocument?_of_lacks (lacks : Lacks d) : ofDocument? d = none := by
  refine Option.eq_none_iff_forall_ne_some.mpr fun b read => ?_
  obtain ⟨fields, own, present, _⟩ := parts_of_ofDocument? read
  obtain ⟨name, needed, absent⟩ := lacks
  have member : (⟨name, []⟩ : Member) ∈ shape.members :=
    (show ∀ name ∈ required, (⟨name, []⟩ : Member) ∈ shape.members by decide) name needed
  rw [Document.given_of_fields? shape_wellSpelled member own, Option.toList_eq_nil_iff] at absent
  exact present name needed absent

/-! ### Texts -/

/-- A text of the document, or any other that the reader takes for it. Not every text of a document
is taken for this document: where one of the arrays has more items than the run of bytes that is
expected in its place, the reader ends the run by its length. -/
def Conveys (cs : List Symbol) (d : Document) : Prop :=
  d.WrittenBy cs ∧ Suits layout d ∨ Document.ofSymbols? layout cs = some d

theorem ofSymbols?_of_conveys {cs : List Symbol} (conveys : Conveys cs d) :
    Document.ofSymbols? layout cs = some d := by
  rcases conveys with ⟨written, suits⟩ | read
  · exact Document.ofSymbols?_of_written written suits
  · exact read

/-- A block is read from each of its texts: the members of its records in any order and under any of
their spellings, others between them, those with their usual value missing, hexadecimal digits in
either case with or without their marker, and quantities as texts or as bare numbers. The text that
a block is encoded as is one of them. No block is read from a text in which a record gives a member
twice, or in which a member that has no usual value is missing. -/
theorem spellings_decode :
    (∀ (b : Block) (d : Document), (∀ n ∈ b.sequence, FitsIn 64 n) → b.Spells d →
      (∀ s, d.WrittenBy (Symbol.ofString s) → ofString? s = some b) ∧
      ∀ bytes, d.WrittenBy (Symbol.ofBytes bytes) → ofBytes? bytes = some b) ∧
    (∀ b : Block, b.Spells (document b.toValue) ∧
      (document b.toValue).WrittenBy (Symbol.ofString b.toValue.text)) ∧
    ∀ d, Repeats d ∨ Lacks d →
      (∀ s, Conveys (Symbol.ofString s) d → ofString? s = none) ∧
      ∀ bytes, Conveys (Symbol.ofBytes bytes) d → ofBytes? bytes = none := by
  refine ⟨fun b d fits spells => ?_, fun b => ?_, fun d unreadable => ?_⟩
  · have decodes : ofDocument? d = some b := spells.ofDocument? fits
    refine ⟨fun s written => ?_, fun bytes written => ?_⟩
    · rw [ofString?, Document.ofText?, Document.ofSymbols?_of_written written spells.suits,
        Option.bind_some, decodes]
    · rw [ofBytes?, Document.ofBytes?, Document.ofSymbols?_of_written written spells.suits,
        Option.bind_some, decodes]
  · exact ⟨b.spells_document, Document.written_text b.toValue⟩
  · have fails : ofDocument? d = none := unreadable.elim ofDocument?_of_repeats ofDocument?_of_lacks
    refine ⟨fun s conveys => ?_, fun bytes conveys => ?_⟩
    · rw [ofString?, Document.ofText?, ofSymbols?_of_conveys conveys, Option.bind_some, fails]
    · rw [ofBytes?, Document.ofBytes?, ofSymbols?_of_conveys conveys, Option.bind_some, fails]

/-! A block as its producer may write it, with these logs in its one transaction. -/

def shortAddress : Value := .string (String.ofList (List.replicate 40 '0'))

def shortItem : Value := .object [("storage_keys", .array []), ("address", shortAddress)]

def shortTransaction (logs : List Value) : Value := .object
  [("near_metadata", .object []), ("logs", .array logs), ("kind", .array [.null]),
    ("access_list", .array [shortItem])]

def shortBlock (logs : List Value) : Value :=
  let root : Value := (FixedBytes.zero : Hash).toValue
  .object
    [("transactions", .array [shortTransaction logs]), ("near_metadata", .string "SkippedBlock"),
      ("gas_limit", Json.nat 21000), ("gas_used", .string "0x5208"), ("state_root", root),
      ("receipts_root", root), ("transactions_root", root), ("extra", .object [("hash", .null)]),
      ("miner", shortAddress), ("timestamp", Json.int (-1)), ("height", Json.nat 5),
      ("chain_id", Json.nat 1), ("parent_hash", root), ("hash", root)]

theorem short_block_decodes :
    let t : Transaction :=
      { hash := .zero, blockHash := .zero, blockHeight := 0, chainId := 0, index := 0,
        sender := .zero, recipient := none, nonce := .absent, gasPrice := .absent,
        gasLimit := .absent, gasUsed := 0, maxPriorityFeePerGas := .absent,
        maxFeePerGas := .absent, value := .absent, input := [], output := [],
        accessList := [⟨.zero, []⟩], txType := 0, status := false,
        logs := [⟨.zero, [[0xAB, 0x0C]], []⟩], contractAddress := none, v := 0, r := .absent,
        s := .absent, near := some ⟨"", ""⟩ }
    let b : Block :=
      { Block.empty 1 5 with
        timestamp := -1
        gasLimit := ⟨"21000"⟩
        gasUsed := ⟨"0x5208"⟩
        size := .absent
        transactions := [t] }
    let log : Value := .object [("Topics", .array [.string "aB0C"])]
    let doubled : Value := .object [("topics", .array []), ("data", .string ""), ("Topics", .null)]
    ofString? (shortBlock [log]).text = some b ∧
    ofBytes? (Text.utf8 (shortBlock [log]).text) = some b ∧
    ofString? (shortBlock [log, doubled]).text = none ∧
    ofString? (.object [] : Value).text = none := by
  intro t b log doubled
  have root : (FixedBytes.zero : Hash).Spells (document (FixedBytes.zero : Hash).toValue) :=
    FixedBytes.spells_document _
  have address : (FixedBytes.zero : Address).Spells (document shortAddress) := by
    refine ⟨_, rfl, ?_⟩
    rw [String.toList_ofList]
    exact .bare (by decide)
  have item : (⟨.zero, []⟩ : AccessListItem).Spells (document shortItem) := by
    refine ⟨_, Document.lists_document _, ?_⟩
    simp only [AccessListItem.slots, List.forall_mem_cons]
    exact ⟨.once rfl address, .once rfl ⟨_, rfl, .nil⟩, List.forall_mem_nil _⟩
  have event : (⟨.zero, [[0xAB, 0x0C]], []⟩ : Log).Spells (document log) := by
    refine ⟨_, Document.lists_document _, ?_⟩
    simp only [Log.slots, List.forall_mem_cons]
    have topic : BytesSpell [0xAB, 0x0C] (document (.string "aB0C")) := ⟨_, rfl, .bare (by decide)⟩
    exact ⟨.missing rfl rfl, .once rfl ⟨_, rfl, .cons topic .nil⟩, .missing rfl rfl,
      List.forall_mem_nil _⟩
  have near : (⟨"", ""⟩ : NearTransaction).Spells (document (.object [])) := by
    refine ⟨_, Document.lists_document _, ?_⟩
    simp only [NearTransaction.slots, List.forall_mem_cons]
    exact ⟨.missing rfl rfl, .missing rfl rfl, List.forall_mem_nil _⟩
  have transaction : t.Spells (document (shortTransaction [log])) := by
    refine ⟨_, Document.lists_document _, ?_⟩
    simp only [Transaction.slots, List.forall_mem_cons]
    exact ⟨.missing rfl rfl, .missing rfl rfl, .missing rfl rfl, .missing rfl rfl, .missing rfl rfl,
      .missing rfl rfl, .missing rfl rfl, .missing rfl rfl, .missing rfl rfl, .missing rfl rfl,
      .missing rfl rfl, .missing rfl rfl, .missing rfl rfl, .missing rfl rfl, .missing rfl rfl,
      .missing rfl rfl, .once rfl ⟨_, rfl, .cons item .nil⟩, .missing rfl rfl, .missing rfl rfl,
      .once rfl ⟨_, rfl, .cons event .nil⟩, .missing rfl rfl, .missing rfl rfl, .missing rfl rfl,
      .missing rfl rfl, .once rfl near, List.forall_mem_nil _⟩
  have block : b.Spells (document (shortBlock [log])) := by
    refine ⟨_, Document.lists_document _, ?_⟩
    simp only [slots, List.forall_mem_cons]
    exact ⟨.once rfl rfl, .once rfl root, .once rfl root, .once rfl rfl, .once rfl address,
      .once rfl rfl, .once rfl (.inr ⟨.ofInt 21000, rfl, rfl⟩), .once rfl (.inl rfl),
      .missing rfl rfl, .once rfl root, .once rfl root, .once rfl root, .missing rfl rfl,
      .once rfl ⟨_, rfl, .cons transaction .nil⟩, .once rfl .skipped, .missing rfl rfl,
      List.forall_mem_nil _⟩
  obtain ⟨decodes, -, fails⟩ := spellings_decode
  have written := Document.written_text (shortBlock [log])
  have fits : ∀ n ∈ b.sequence, FitsIn 64 n := fun n inside => absurd inside (Option.not_mem_none n)
  obtain ⟨string, bytes⟩ := decodes b (document (shortBlock [log])) fits block
  refine ⟨string _ written, bytes _ (Symbol.ofBytes_utf8 _ ▸ written), ?_, ?_⟩
  · have repeats : Repeats (document (shortBlock [log, doubled])) := by
      refine .transactions ⟨_, List.mem_singleton.mpr rfl, List.mem_singleton.mpr rfl⟩ ?_
      refine .logs ⟨_, List.mem_singleton.mpr rfl, List.mem_of_getElem? (i := 1) rfl⟩ ?_
      exact ⟨⟨"topics", ["Topics"]⟩, by decide, by decide⟩
    refine (fails _ (.inl repeats)).1 _ (.inl ⟨Document.written_text _, ?_⟩)
    repeat' first | exact trivial | refine ⟨?_, ?_⟩
  · exact (fails (document (.object [])) (.inr ⟨"hash", by decide, rfl⟩)).1 _
      (.inl ⟨Document.written_text _, trivial⟩)

end Block

end BlockIndexer
