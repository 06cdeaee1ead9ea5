import BlockIndexer.Proofs.Row.Mapping
import BlockIndexer.Proofs.Rpc.Block
import BlockIndexer.Proofs.Rpc.Record
import BlockIndexer.Proofs.Text.Numeral

/-! A fetched block is the node's block. Its transactions are the node's, one for one and in their
order, each of them with the receipt that answered the request for its own hash. A node that
contradicts itself, or that gives numbers too large for their fields, gets no block stored. -/

namespace BlockIndexer.Rpc

open Json (Document Value)

/-- The transaction has the fields that the node gives it, and of what came of it those that its
receipt tells. -/
structure Joins (chainId height : UInt64) (t : NodeTransaction) (receipt : Receipt)
    (tx : Transaction) : Prop where
  hash : tx.hash = t.hash
  blockHash : tx.blockHash = t.blockHash
  blockHeight : tx.blockHeight = height
  chainId : tx.chainId = chainId
  index : tx.index.toNat = t.index.toNat
  sender : tx.sender = t.sender
  recipient : tx.recipient = t.recipient
  nonce : tx.nonce = t.nonce
  gasPrice : tx.gasPrice = t.gasPrice
  gasLimit : tx.gasLimit = t.gas
  gasUsed : tx.gasUsed = receipt.gasUsed
  maxPriorityFeePerGas : tx.maxPriorityFeePerGas = t.maxPriorityFeePerGas
  maxFeePerGas : tx.maxFeePerGas = t.maxFeePerGas
  value : tx.value = t.value
  input : tx.input = t.input
  output : tx.output = []
  accessList : tx.accessList = t.accessList
  txType : tx.txType.toNat = t.txType.toNat
  status : tx.status = true ↔ receipt.status = 1
  logs : tx.logs = receipt.logs.map fun log =>
    { address := log.address, topics := log.topics.map (·.toList), data := log.data }
  contractAddress : tx.contractAddress = receipt.contractAddress
  v : tx.v = t.v
  r : tx.r = t.r
  s : tx.s = t.s
  near : tx.near = none

/-- The transactions are the node's with their receipts, one for one and in their order. -/
inductive Joined (chainId height : UInt64) :
    List NodeTransaction → List Receipt → List Transaction → Prop where
  | nil : Joined chainId height [] [] []
  | cons {t : NodeTransaction} {ts : List NodeTransaction} {receipt : Receipt}
      {receipts : List Receipt} {tx : Transaction} {txs : List Transaction} :
      Joins chainId height t receipt tx → Joined chainId height ts receipts txs →
      Joined chainId height (t :: ts) (receipt :: receipts) (tx :: txs)

/-- Its numbers fit in the fields that they are stored in. -/
structure NodeTransaction.Fits (t : NodeTransaction) : Prop where
  index : FitsIn 32 t.index.toNat
  txType : FitsIn 8 t.txType.toNat

instance (t : NodeTransaction) : Decidable t.Fits :=
  decidable_of_iff (FitsIn 32 t.index.toNat ∧ FitsIn 8 t.txType.toNat)
    ⟨fun fits => ⟨fits.1, fits.2⟩, fun fits => ⟨fits.index, fits.txType⟩⟩

structure NodeBlock.Fits (b : NodeBlock) : Prop where
  timestamp : FitsIn 63 (b.timestamp.toNat * 1000000000)
  transactions : ∀ t ∈ b.transactions, t.Fits

instance (b : NodeBlock) : Decidable b.Fits :=
  decidable_of_iff (FitsIn 63 (b.timestamp.toNat * 1000000000) ∧ ∀ t ∈ b.transactions, t.Fits)
    ⟨fun fits => ⟨fits.1, fits.2⟩, fun fits => ⟨fits.timestamp, fits.transactions⟩⟩

variable {chainId height : UInt64} {t : NodeTransaction} {ts : List NodeTransaction}
  {receipt : Receipt} {receipts : List Receipt} {tx : Transaction} {txs : List Transaction}
  {b : NodeBlock}

theorem Joined.length (joined : Joined chainId height ts receipts txs) :
    txs.length = ts.length := by
  induction joined with
  | nil => rfl
  | cons _ _ ih => rw [List.length_cons, List.length_cons, ih]

/-! ### Numbers in their fields -/

theorem narrow_of_fits {bits n : Nat} (fits : FitsIn bits n) (field : String) (h : Nat) :
    narrow bits field h n = .ok n := by
  rw [narrow, if_pos fits]

theorem narrow_of_misfit {bits n : Nat} (misfit : ¬ FitsIn bits n) (field : String) (h : Nat) :
    narrow bits field h n = .error (.protocol s!"{field} {n} out of range in #{h}") := by
  rw [narrow, if_neg misfit]

theorem toTransaction_of_fits (fits : t.Fits) (chainId height : UInt64) (receipt : Receipt) :
    ∃ tx, t.toTransaction chainId height receipt = .ok tx ∧ Joins chainId height t receipt tx := by
  rw [NodeTransaction.toTransaction, narrow_of_fits fits.index, narrow_of_fits fits.txType]
  refine ⟨_, rfl, ?_⟩
  constructor
  case index => exact UInt32.toNat_ofNat_of_lt' fits.index
  case txType => exact UInt8.toNat_ofNat_of_lt' fits.txType
  case status => exact beq_iff_eq
  all_goals rfl

theorem toTransaction_of_misfit (misfit : ¬ t.Fits) (chainId height : UInt64)
    (receipt : Receipt) :
    ∃ reason, t.toTransaction chainId height receipt = .error (.protocol reason) := by
  rw [NodeTransaction.toTransaction]
  by_cases index : FitsIn 32 t.index.toNat
  · have txType : ¬ FitsIn 8 t.txType.toNat := fun txType => misfit ⟨index, txType⟩
    rw [narrow_of_fits index, narrow_of_misfit txType]
    exact ⟨_, rfl⟩
  · rw [narrow_of_misfit index]
    exact ⟨_, rfl⟩

/-! ### Blocks of transactions that fit -/

theorem joined_of_fits (fits : ∀ t ∈ ts, t.Fits) (lengths : receipts.length = ts.length)
    (chainId height : UInt64) :
    ∃ txs, (ts.zip receipts).mapM (fun (t, receipt) => t.toTransaction chainId height receipt) =
      .ok txs ∧ Joined chainId height ts receipts txs := by
  induction ts generalizing receipts with
  | nil =>
    cases List.eq_nil_of_length_eq_zero lengths
    exact ⟨[], rfl, .nil⟩
  | cons t ts ih =>
    cases receipts with
    | nil => contradiction
    | cons receipt receipts =>
      obtain ⟨fits, rest⟩ := List.forall_mem_cons.mp fits
      obtain ⟨tx, first, joins⟩ := toTransaction_of_fits fits chainId height receipt
      obtain ⟨txs, mapped, joined⟩ := ih rest (Nat.succ_inj.mp lengths)
      refine ⟨tx :: txs, ?_, .cons joins joined⟩
      rw [List.zip_cons_cons, List.mapM_cons, mapped]
      dsimp only
      rw [first]
      rfl

theorem error_of_misfit (misfit : ¬ ∀ t ∈ ts, t.Fits) (lengths : receipts.length = ts.length)
    (chainId height : UInt64) :
    ∃ reason, (ts.zip receipts).mapM
      (fun (t, receipt) => t.toTransaction chainId height receipt) = .error (.protocol reason) := by
  induction ts generalizing receipts with
  | nil => exact absurd (List.forall_mem_nil _) misfit
  | cons t ts ih =>
    cases receipts with
    | nil => contradiction
    | cons receipt receipts =>
      rw [List.zip_cons_cons, List.mapM_cons]
      dsimp only
      by_cases fits : t.Fits
      · -- Then the transaction that does not fit is a later one.
        obtain ⟨tx, first, -⟩ := toTransaction_of_fits fits chainId height receipt
        have rest : ¬ ∀ t ∈ ts, t.Fits :=
          fun rest => misfit (List.forall_mem_cons.mpr ⟨fits, rest⟩)
        obtain ⟨reason, failed⟩ := ih rest (Nat.succ_inj.mp lengths)
        refine ⟨reason, ?_⟩
        rw [first, failed]
        rfl
      · obtain ⟨reason, failed⟩ := toTransaction_of_misfit fits chainId height receipt
        refine ⟨reason, ?_⟩
        rw [failed]
        rfl

theorem toBlock_of_fits (fits : b.Fits) (lengths : receipts.length = b.transactions.length)
    (chainId : UInt64) :
    ∃ block, b.toBlock chainId receipts = .ok block ∧ block.height = b.number ∧
      block.chainId = chainId ∧ block.isSkipped = false ∧
      Joined chainId b.number b.transactions receipts block.transactions := by
  obtain ⟨txs, mapped, joined⟩ := joined_of_fits fits.transactions lengths chainId b.number
  rw [NodeBlock.toBlock, nanoseconds, if_pos fits.timestamp, mapped]
  exact ⟨_, rfl, rfl, rfl, rfl, joined⟩

theorem toBlock_of_misfit (misfit : ¬ b.Fits) (lengths : receipts.length = b.transactions.length)
    (chainId : UInt64) : ∃ reason, b.toBlock chainId receipts = .error (.protocol reason) := by
  rw [NodeBlock.toBlock]
  by_cases timestamp : FitsIn 63 (b.timestamp.toNat * 1000000000)
  · have misfit : ¬ ∀ t ∈ b.transactions, t.Fits := fun fits => misfit ⟨timestamp, fits⟩
    obtain ⟨reason, failed⟩ := error_of_misfit misfit lengths chainId b.number
    rw [nanoseconds, if_pos timestamp, failed]
    exact ⟨reason, rfl⟩
  · rw [nanoseconds, if_neg timestamp]
    exact ⟨_, rfl⟩

theorem joined_of_toBlock {block : Block} (built : b.toBlock chainId receipts = .ok block)
    (lengths : receipts.length = b.transactions.length) :
    block.height = b.number ∧ block.chainId = chainId ∧ block.isSkipped = false ∧
      Joined chainId b.number b.transactions receipts block.transactions := by
  by_cases fits : b.Fits
  · obtain ⟨block', built', joined⟩ := toBlock_of_fits fits lengths chainId
    cases built.symm.trans built'
    exact joined
  · obtain ⟨reason, failed⟩ := toBlock_of_misfit fits lengths chainId
    cases built.symm.trans failed

theorem Collected.length {id : UInt64} {ys : List Exchange}
    (collected : Collected id ts ys receipts) : receipts.length = ts.length := by
  induction collected with
  | nil => rfl
  | cons _ _ _ ih => rw [List.length_cons, List.length_cons, ih]

/-! ### Fetches -/

namespace Client

variable {f : BlockFetcher} {c c' c₁ : Client} {x y : Exchange} {ys : List Exchange}
  {rest : List Reply} {more : List NodeTransaction}

/-- Every call that the client makes is answered with a result that decodes, and the last one is not
what was asked for, or all of them together do not fit in a block. -/
inductive Contradicted (height : UInt64) (c : Client) : Client → Prop where
  | number {x : Exchange} {rest : List Reply} {b : NodeBlock} :
      c.Meets x rest → x.request = blockRequest c.nextId height → x.Gives readBlock (some b) →
      b.number ≠ height → Contradicted height c (c.after x rest)
  | receipt {x y : Exchange} {ys : List Exchange} {rest : List Reply} {b : NodeBlock}
      {ts more : List NodeTransaction} {t : NodeTransaction} {receipts : List Receipt}
      {c₁ : Client} :
      c.Gathered height x b ts ys receipts c₁ → b.transactions = ts ++ t :: more →
      c₁.Meets y rest → y.request = receiptRequest c₁.nextId t.hash →
      y.Gives readReceipt none → Contradicted height c (c₁.after y rest)
  | misfit {x : Exchange} {ys : List Exchange} {b : NodeBlock} {receipts : List Receipt}
      {c' : Client} :
      c.Gathered height x b b.transactions ys receipts c' → ¬ b.Fits → Contradicted height c c'

theorem block_of_contradicted (f : BlockFetcher) (contradicted : c.Contradicted height c') :
    ∃ reason, c.block f height = (.error (.protocol reason), c') := by
  cases contradicted with
  | number meets request gives other =>
    exact ⟨_, block_of_other_number f meets request gives other⟩
  | receipt gathered transactions meets request gives =>
    exact ⟨_, block_of_gathered_error f gathered transactions
      (receipts_of_absent meets request gives _ _)⟩
  | misfit gathered misfit =>
    obtain ⟨reason, failed⟩ := toBlock_of_misfit misfit gathered.collected.length f.chainId
    exact ⟨reason, by rw [block_of_gathered f gathered, failed]⟩

/-- A fetched block that does not stand for a missing height is the node's, with each of its
transactions and that one's own receipt, and nothing else was asked of the node. When all the
answers decode and one of them contradicts the request, or the numbers do not fit, there is no
block; else there is one. What the answers decode to is what their members say, each field of one
member. -/
theorem block_joined (f : BlockFetcher) (height : UInt64) (c : Client) :
    (∀ block c', c.block f height = (.ok block, c') → block.isSkipped = false →
      block.height = height ∧ block.chainId = f.chainId ∧
      ∃ x b ys receipts, c.Gathered height x b b.transactions ys receipts c' ∧
        c'.node.requests = c.node.requests ++ (x :: ys).flatMap (·.requests) ∧
        block.transactions.length = b.transactions.length ∧
        Joined block.chainId block.height b.transactions receipts block.transactions) ∧
    word? (Json.document (.string (Text.hexNumeral height.toNat))) = some height ∧
    (∀ c', c.Contradicted height c' →
      ∃ reason, c.block f height = (.error (.protocol reason), c')) ∧
    (∀ x b ys receipts c', c.Gathered height x b b.transactions ys receipts c' → b.Fits →
      ∃ block, c.block f height = (.ok block, c') ∧ block.isSkipped = false) ∧
    ∀ d,
      (∀ b, NodeBlock.ofDocument? d = some b ↔ d.Fills NodeBlock.shape b.slots) ∧
      (∀ t, NodeTransaction.ofDocument? d = some t ↔ d.Fills NodeTransaction.shape t.slots) ∧
      (∀ receipt, Receipt.ofDocument? d = some receipt ↔ d.Fills Receipt.shape receipt.slots) ∧
      ∀ log, NodeLog.ofDocument? d = some log ↔ d.Fills NodeLog.shape log.slots := by
  refine ⟨fun block c' ok present => ?_, ?_, fun c' => block_of_contradicted f, ?_, fun d =>
    ⟨fun _ => NodeBlock.ofDocument?_eq_some_iff, fun _ => NodeTransaction.ofDocument?_eq_some_iff,
      fun _ => Receipt.ofDocument?_eq_some_iff, fun _ => NodeLog.ofDocument?_eq_some_iff⟩⟩
  · rcases cases_of_block ok with ⟨rfl, -⟩ | ⟨x, b, ys, receipts, gathered, built⟩
    · contradiction
    · obtain ⟨number, chain, -, joined⟩ := joined_of_toBlock built gathered.collected.length
      refine ⟨number.trans gathered.number, chain, x, b, ys, receipts, gathered,
        gathered.exchanged.requests, joined.length, ?_⟩
      rwa [number, chain]
  · have fits : FitsIn 64 height.toNat := height.toNat_lt
    rw [Json.document, word?, Option.bind_some, Text.word?, Text.numeral?_hexNumeral,
      Option.filter_some, if_pos (decide_eq_true fits), Option.map_some, UInt64.ofNat_toNat]
  · intro x b ys receipts c' gathered fits
    obtain ⟨block, built, -, -, present, -⟩ :=
      toBlock_of_fits fits gathered.collected.length f.chainId
    exact ⟨block, by rw [block_of_gathered f gathered, built], present⟩

/-- A node's response that gives a value. -/
def giving (result : Value) : Response := ⟨"2.0", .number 1, some result, none⟩

theorem exists_given {α : Type} (c : Client) (request : Request) {failed : List Reply}
    (fails : ∀ reply ∈ failed, reply.Fails) (result : Value) (reachable : c.node.reachable = true)
    (replies : c.node.replies = failed ++ .ofResponse (giving result) :: rest)
    (retries : failed.length ≤ c.backoff.maxRetries) (read : Document → Option α) (p : α → Bool)
    (decodes : (Response.ofDocument? (Json.document (giving result).toValue)).any
      (fun response => (response.outcome.toOption.bind fun value => read value.document).any p) =
        true) :
    ∃ x a, x.request = request ∧ x.requests.length = failed.length + 1 ∧ c.Meets x rest ∧
      x.Gives read a ∧ p a = true := by
  obtain ⟨x, asked, sent, meets, holds⟩ :=
    c.exists_meets request fails (giving result) reachable replies retries _ decodes
  obtain ⟨a, gives, holds⟩ := Exchange.gives_of_any holds
  exact ⟨x, a, asked, sent, meets, gives, holds⟩

/-- A block at height 16 with two transactions, and zeros for what does not matter. -/
def blockOfTwo : Value :=
  let bytes (n byte : Nat) : Value := .array (List.replicate n (Json.nat byte))
  let transaction (index : Nat) : Value := .object
    [("hash", bytes 32 index), ("transactionIndex", Json.nat index), ("from", bytes 20 0),
      ("nonce", Json.nat 0), ("gas", Json.nat 0), ("value", Json.nat 0)]
  .object
    [("number", .string "0x10"), ("hash", bytes 32 0), ("parentHash", bytes 32 0),
      ("miner", bytes 20 0), ("timestamp", Json.nat 1), ("gasLimit", Json.nat 0),
      ("gasUsed", Json.nat 0), ("transactionsRoot", bytes 32 0), ("receiptsRoot", bytes 32 0),
      ("stateRoot", bytes 32 0), ("transactions", .array [transaction 0, transaction 1])]

def receiptOf (gasUsed : Nat) : Value := .object [("gasUsed", Json.nat gasUsed)]

/-- A client that retries once, with a node that is not always ready to answer. -/
def twoReceipts : Client := connect ⟨1, 0, 0, 2⟩ (.scripted true
  [⟨503, ""⟩, .ofResponse (giving blockOfTwo), .ofResponse (giving (receiptOf 7)), ⟨500, ""⟩,
    .ofResponse (giving (receiptOf 9))])

/-- The block comes after five requests, and it is no block for a height that it is not at. -/
theorem two_receipts_joined :
    (∃ block c', twoReceipts.block ⟨5, true⟩ 16 = (.ok block, c') ∧ block.isSkipped = false ∧
      block.height = 16 ∧ c'.node.requests.length = 5) ∧
    ∃ reason c', twoReceipts.block ⟨5, true⟩ 17 = (.error (.protocol reason), c') := by
  have busy (status : Nat) (h : 300 ≤ status) : ∀ reply ∈ [⟨status, ""⟩], Reply.Fails reply :=
    List.forall_mem_singleton.mpr (.inr (.inl h))
  have answered (height : UInt64) := twoReceipts.exists_given (blockRequest 1 height)
    (busy 503 (by decide)) blockOfTwo rfl rfl (by decide) readBlock (fun b => b.any fun b =>
      decide (b.number = 16 ∧ b.Fits ∧ b.transactions.length = 2)) (by decide +kernel)
  constructor
  · obtain ⟨x, _, request, sent, meets, given, holds⟩ := answered 16
    obtain ⟨b, rfl, found⟩ := (Option.any_eq_true _ _).mp holds
    obtain ⟨number, fits, two⟩ := of_decide_eq_true found
    obtain ⟨t, t', transactions⟩ := List.length_eq_two.mp two
    obtain ⟨y, _, first, sent₁, meets₁, gives, some₁⟩ := (twoReceipts.after x _).exists_given
      (receiptRequest 2 t.hash) (List.forall_mem_nil _) (receiptOf 7) rfl rfl (Nat.zero_le _)
      readReceipt Option.isSome (by decide +kernel)
    obtain ⟨z, _, second, sent₂, meets₂, gives', some₂⟩ :=
      ((twoReceipts.after x _).after y _).exists_given (receiptRequest 3 t'.hash)
      (busy 500 (by decide)) (receiptOf 9) rfl rfl (Nat.le_refl 1) readReceipt Option.isSome
      (by decide +kernel)
    obtain ⟨r, rfl⟩ := Option.isSome_iff_exists.mp some₁
    obtain ⟨r', rfl⟩ := Option.isSome_iff_exists.mp some₂
    have collected : Collected 2 b.transactions [y, z] [r, r'] :=
      transactions ▸ .cons first gives (.cons second gives' .nil)
    have gathered : twoReceipts.Gathered 16 x b b.transactions [y, z] [r, r'] _ :=
      ⟨.cons meets (.cons meets₁ (.cons meets₂ .nil)), request, given, number, collected⟩
    obtain ⟨joined, -, -, comes, -⟩ := block_joined ⟨5, true⟩ 16 twoReceipts
    obtain ⟨block, ok, present⟩ := comes _ _ _ _ _ gathered fits
    refine ⟨block, _, ok, present, (joined block _ ok present).1, ?_⟩
    rw [gathered.exchanged.requests]
    simp only [List.flatMap_cons, List.flatMap_nil, List.length_append, sent, sent₁, sent₂]
    rfl
  · obtain ⟨x, _, request, -, meets, given, holds⟩ := answered 17
    obtain ⟨b, rfl, found⟩ := (Option.any_eq_true _ _).mp holds
    have other : b.number ≠ 17 := by
      rw [(of_decide_eq_true found).1]
      decide
    obtain ⟨-, -, contradicts, -⟩ := block_joined ⟨5, true⟩ 17 twoReceipts
    obtain ⟨reason, failed⟩ := contradicts _ (.number meets request given other)
    exact ⟨reason, _, failed⟩

end Client

end BlockIndexer.Rpc
