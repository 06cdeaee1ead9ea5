import BlockIndexer.Proofs.Rpc.Exchange
import BlockIndexer.Rpc.Block

/-! The exchanges of a fetch. The first one asks for the block at the height, and each one after it
for the receipt of the next transaction, as long as what came before was given. What a fetch comes
to is read off the exchange that it ends at. -/

namespace BlockIndexer.Rpc

open Json (Document Value)

/-- The text stands in the message of a fault, or in its data as they are printed. -/
def Fault.Mentions (fault : Fault) (text : String) : Prop :=
  text.toList <:+: fault.message.toList ∨
    ∃ data, fault.data = some data ∧ text.toList <:+: Json.chars data

theorem Fault.occurs_iff {needle cs : List Char} :
    occurs needle cs = true ↔ needle <:+: cs := by
  induction cs with
  | nil => rw [occurs, List.isEmpty_iff, List.infix_nil]
  | cons c cs ih =>
    rw [occurs, Bool.or_eq_true, List.isPrefixOf_iff_prefix, ih, List.infix_cons_iff]

theorem Fault.mentions_iff {fault : Fault} {text : String} :
    fault.mentions text = true ↔ fault.Mentions text := by
  rw [mentions, Bool.or_eq_true, occurs_iff, Option.any_eq_true]
  simp only [occurs_iff]
  rfl

/-- The request for the block at a height, with its transactions. -/
def blockRequest (id height : UInt64) : Request :=
  .call id "eth_getBlockByNumber" (.array [.string (Text.hexNumeral height.toNat), .bool true])

/-- The request for the receipt of the transaction with a hash. -/
def receiptRequest (id : UInt64) (hash : Hash) : Request :=
  .call id "eth_getTransactionReceipt" (.array [hash.toValue])

abbrev readBlock : Document → Option (Option NodeBlock) := Document.nullable? NodeBlock.ofDocument?

abbrev readReceipt : Document → Option (Option Receipt) := Document.nullable? Receipt.ofDocument?

/-- The exchanges, whose ids count on from `id`, gave the receipts of the transactions: one each, in
their order, asked for by its hash. -/
inductive Collected : UInt64 → List NodeTransaction → List Exchange → List Receipt → Prop where
  | nil {id : UInt64} : Collected id [] [] []
  | cons {id : UInt64} {t : NodeTransaction} {ts : List NodeTransaction} {y : Exchange}
      {ys : List Exchange} {receipt : Receipt} {receipts : List Receipt} :
      y.request = receiptRequest id t.hash → y.Gives readReceipt (some receipt) →
      Collected (id + 1) ts ys receipts → Collected id (t :: ts) (y :: ys) (receipt :: receipts)

namespace Client

variable {f : BlockFetcher} {height : UInt64} {c c' : Client} {x y : Exchange} {ys : List Exchange}
  {rest : List Reply} {b : NodeBlock} {t : NodeTransaction} {ts more : List NodeTransaction}
  {receipts : List Receipt}

/-- The client has got the block at a height and the receipts of its first transactions. -/
structure Gathered (height : UInt64) (c : Client) (x : Exchange) (b : NodeBlock)
    (ts : List NodeTransaction) (ys : List Exchange) (receipts : List Receipt) (c' : Client) :
    Prop where
  exchanged : c.Exchanged (x :: ys) c'
  request : x.request = blockRequest c.nextId height
  given : x.Gives readBlock (some b)
  number : b.number = height
  collected : Collected (c.nextId + 1) ts ys receipts

/-- The client gets no receipt of the transaction with a hash. -/
inductive Unreceipted (hash : Hash) (c : Client) : Prop where
  | unanswered : c.Unanswered → Unreceipted hash c
  | fault {y : Exchange} {rest : List Reply} {fault : Fault} : c.Meets y rest →
      y.request = receiptRequest c.nextId hash → y.response.fault = some fault →
      Unreceipted hash c
  | garbled {y : Exchange} {rest : List Reply} : c.Meets y rest →
      y.request = receiptRequest c.nextId hash → y.Garbles readReceipt → Unreceipted hash c
  | absent {y : Exchange} {rest : List Reply} : c.Meets y rest →
      y.request = receiptRequest c.nextId hash → y.Gives readReceipt none → Unreceipted hash c

/-- The client gets no answer that is a block with all its receipts, nor a fault instead of the
block. -/
inductive Unfetched (height : UInt64) (c : Client) : Prop where
  | unanswered : c.Unanswered → Unfetched height c
  | garbled {x : Exchange} {rest : List Reply} : c.Meets x rest →
      x.request = blockRequest c.nextId height → x.Garbles readBlock → Unfetched height c
  | absent {x : Exchange} {rest : List Reply} : c.Meets x rest →
      x.request = blockRequest c.nextId height → x.Gives readBlock none → Unfetched height c
  | number {x : Exchange} {rest : List Reply} {b : NodeBlock} : c.Meets x rest →
      x.request = blockRequest c.nextId height → x.Gives readBlock (some b) → b.number ≠ height →
      Unfetched height c
  | receipt {x : Exchange} {b : NodeBlock} {ts more : List NodeTransaction} {t : NodeTransaction}
      {ys : List Exchange} {receipts : List Receipt} {c' : Client} :
      c.Gathered height x b ts ys receipts c' → b.transactions = ts ++ t :: more →
      c'.Unreceipted t.hash → Unfetched height c

/-! ### Receipts -/

section

variable (meets : c.Meets y rest) (request : y.request = receiptRequest c.nextId t.hash)
  {receipt : Receipt} (gives : y.Gives readReceipt (some receipt)) {h : Nat}

include meets request gives

theorem receipts_of_given (others : (c.after y rest).receipts h ts = (.ok receipts, c')) :
    c.receipts h (t :: ts) = (.ok (receipt :: receipts), c') := by
  rw [Client.receipts, call_of_meets meets request, Exchange.result_of_gives gives]
  dsimp only
  rw [others]

theorem receipts_of_given_error {e : Error}
    (failed : (c.after y rest).receipts h ts = (.error e, c')) :
    c.receipts h (t :: ts) = (.error e, c') := by
  rw [Client.receipts, call_of_meets meets request, Exchange.result_of_gives gives]
  dsimp only
  rw [failed]

end

theorem receipts_of_absent (meets : c.Meets y rest)
    (request : y.request = receiptRequest c.nextId t.hash) (gives : y.Gives readReceipt none)
    (h : Nat) (ts : List NodeTransaction) :
    c.receipts h (t :: ts) =
      (.error (.protocol s!"missing receipt for {t.hash.text} in #{h}"), c.after y rest) := by
  rw [receipts, call_of_meets meets request, Exchange.result_of_gives gives]

theorem receipts_of_unreceipted (unreceipted : c.Unreceipted t.hash) (h : Nat)
    (ts : List NodeTransaction) : ∃ e c', c.receipts h (t :: ts) = (.error e, c') := by
  cases unreceipted with
  | unanswered unanswered =>
    obtain ⟨failure, c', failed⟩ := call_of_unanswered unanswered "eth_getTransactionReceipt"
      (.array [t.hash.toValue]) readReceipt
    exact ⟨(CallError.transport failure).toError, c', by rw [receipts, failed]⟩
  | @fault y rest fault meets request faulty =>
    refine ⟨(CallError.fault fault).toError, c.after y rest, ?_⟩
    rw [receipts, call_of_meets meets request, Exchange.result_of_fault faulty]
  | @garbled y rest meets request garbles =>
    refine ⟨(CallError.decode "eth_getTransactionReceipt").toError, c.after y rest, ?_⟩
    rw [receipts, call_of_meets meets request, Exchange.result_of_garbles garbles]
  | absent meets request gives => exact ⟨_, _, receipts_of_absent meets request gives h ts⟩

/-- A client that gets no receipt has failed in one of these ways, else it gets one. -/
theorem given_or_unreceipted (c : Client) (hash : Hash) :
    (∃ y rest receipt, c.Meets y rest ∧ y.request = receiptRequest c.nextId hash ∧
      y.Gives readReceipt (some receipt)) ∨ c.Unreceipted hash := by
  rcases c.meets_or_unanswered (receiptRequest c.nextId hash) with
    ⟨y, rest, request, meets⟩ | unanswered
  · rcases y.cases readReceipt with ⟨fault, faulty⟩ | garbles | ⟨_ | receipt, gives⟩
    · exact .inr (.fault meets request faulty)
    · exact .inr (.garbled meets request garbles)
    · exact .inr (.absent meets request gives)
    · exact .inl ⟨y, rest, receipt, meets, request, gives⟩
  · exact .inr (.unanswered unanswered)

theorem receipts_of_collected {id : UInt64} (collected : Collected id ts ys receipts)
    (counted : c.nextId = id) (exchanged : c.Exchanged ys c') (h : Nat) :
    c.receipts h ts = (.ok receipts, c') := by
  induction collected generalizing c with
  | nil =>
    cases exchanged
    rfl
  | cons request gives _ ih =>
    cases exchanged with
    | cons meets exchanged =>
      exact receipts_of_given meets (counted ▸ request) gives
        (ih (congrArg (· + 1) counted) exchanged)

/-- What goes wrong after some receipts, goes wrong as it does without them. -/
theorem receipts_append_of_error {id : UInt64} (collected : Collected id ts ys receipts)
    (counted : c.nextId = id) (exchanged : c.Exchanged ys c') {h : Nat} {e : Error} {c'' : Client}
    (failed : c'.receipts h more = (.error e, c'')) :
    c.receipts h (ts ++ more) = (.error e, c'') := by
  induction collected generalizing c with
  | nil =>
    cases exchanged
    exact failed
  | cons request gives _ ih =>
    cases exchanged with
    | cons meets exchanged =>
      exact receipts_of_given_error meets (counted ▸ request) gives
        (ih (congrArg (· + 1) counted) exchanged)

/-- A client gets the receipts of all the transactions, or of all before one that it gets none
of. -/
theorem collected_or_unreceipted (c : Client) (ts : List NodeTransaction) :
    (∃ ys receipts c', c.Exchanged ys c' ∧ Collected c.nextId ts ys receipts) ∨
      ∃ before t more ys receipts c', ts = before ++ t :: more ∧ c.Exchanged ys c' ∧
        Collected c.nextId before ys receipts ∧ c'.Unreceipted t.hash := by
  -- The client goes along with the transactions: the next receipt is asked for by the client that
  -- has got the ones before it.
  induction ts generalizing c with
  | nil => exact .inl ⟨[], [], c, .nil, .nil⟩
  | cons t ts ih =>
    rcases c.given_or_unreceipted t.hash with ⟨y, rest, receipt, meets, request, gives⟩ | none
    · rcases ih (c.after y rest) with ⟨ys, receipts, c', exchanged, collected⟩ |
        ⟨before, t', more, ys, receipts, c', rfl, exchanged, collected, none⟩
      · exact .inl ⟨y :: ys, receipt :: receipts, c', .cons meets exchanged,
          .cons request gives collected⟩
      · exact .inr ⟨t :: before, t', more, y :: ys, receipt :: receipts, c', rfl,
          .cons meets exchanged, .cons request gives collected, none⟩
    · exact .inr ⟨[], t, ts, [], [], c, rfl, .nil, .nil, none⟩

/-! ### Blocks -/

section

variable (f : BlockFetcher) (meets : c.Meets x rest)
  (request : x.request = blockRequest c.nextId height)

include meets request

theorem block_of_missing {fault : Fault} (faulty : x.response.fault = some fault)
    (mentions : fault.Mentions missingBlockMarker) (empties : f.emptyBlocks = true) :
    c.block f height = (.ok (.empty f.chainId height), c.after x rest) := by
  rw [block, call_of_meets meets request, Exchange.result_of_fault faulty]
  dsimp only
  rw [if_pos (Fault.mentions_iff.mpr mentions), if_pos empties]

theorem block_of_fault {fault : Fault} (faulty : x.response.fault = some fault)
    (refused : fault.Mentions missingBlockMarker → f.emptyBlocks = false) :
    ∃ e, c.block f height = (.error e, c.after x rest) := by
  rw [block, call_of_meets meets request, Exchange.result_of_fault faulty]
  dsimp only
  split
  next mentions =>
    rw [refused (Fault.mentions_iff.mp mentions), if_neg Bool.false_ne_true]
    exact ⟨_, rfl⟩
  next => exact ⟨_, rfl⟩

theorem block_of_garbles (garbles : x.Garbles readBlock) :
    c.block f height =
      (.error (CallError.decode "eth_getBlockByNumber").toError, c.after x rest) := by
  rw [block, call_of_meets meets request, Exchange.result_of_garbles garbles]

theorem block_of_absent (gives : x.Gives readBlock none) :
    c.block f height =
      (.error (.protocol s!"node returned no block at #{height.toNat}"), c.after x rest) := by
  rw [block, call_of_meets meets request, Exchange.result_of_gives gives]

theorem block_of_other_number (gives : x.Gives readBlock (some b)) (other : b.number ≠ height) :
    c.block f height = (.error (.protocol
      s!"asked for block #{height.toNat}, node answered #{b.number.toNat}"), c.after x rest) := by
  rw [block, call_of_meets meets request, Exchange.result_of_gives gives]
  dsimp only
  rw [if_neg other]

theorem block_of_receipts (gives : x.Gives readBlock (some b)) (number : b.number = height)
    (received : (c.after x rest).receipts height.toNat b.transactions = (.ok receipts, c')) :
    c.block f height = (b.toBlock f.chainId receipts, c') := by
  rw [block, call_of_meets meets request, Exchange.result_of_gives gives]
  dsimp only
  rw [if_pos number, received]

theorem block_of_receipts_error (gives : x.Gives readBlock (some b)) (number : b.number = height)
    {e : Error} (failed : (c.after x rest).receipts height.toNat b.transactions = (.error e, c')) :
    c.block f height = (.error e, c') := by
  rw [block, call_of_meets meets request, Exchange.result_of_gives gives]
  dsimp only
  rw [if_pos number, failed]

end

theorem block_of_unanswered (f : BlockFetcher) (unanswered : c.Unanswered) :
    ∃ e c', c.block f height = (.error e, c') := by
  obtain ⟨failure, c', failed⟩ := call_of_unanswered unanswered "eth_getBlockByNumber"
    (.array [.string (Text.hexNumeral height.toNat), .bool true]) readBlock
  refine ⟨(CallError.transport failure).toError, c', ?_⟩
  rw [block, failed]

theorem block_of_gathered (f : BlockFetcher)
    (gathered : c.Gathered height x b b.transactions ys receipts c') :
    c.block f height = (b.toBlock f.chainId receipts, c') := by
  obtain ⟨exchanged, request, given, number, collected⟩ := gathered
  cases exchanged with
  | cons meets exchanged =>
    exact block_of_receipts f meets request given number
      (receipts_of_collected collected rfl exchanged height.toNat)

theorem block_of_gathered_error (f : BlockFetcher)
    (gathered : c.Gathered height x b ts ys receipts c')
    (transactions : b.transactions = ts ++ more) {e : Error} {c'' : Client}
    (failed : c'.receipts height.toNat more = (.error e, c'')) :
    c.block f height = (.error e, c'') := by
  obtain ⟨exchanged, request, given, number, collected⟩ := gathered
  cases exchanged with
  | cons meets exchanged =>
    refine block_of_receipts_error f meets request given number ?_
    rw [transactions]
    exact receipts_append_of_error collected rfl exchanged failed

theorem block_of_unfetched (f : BlockFetcher) (unfetched : c.Unfetched height) :
    ∃ e c', c.block f height = (.error e, c') := by
  cases unfetched with
  | unanswered unanswered => exact block_of_unanswered f unanswered
  | garbled meets request garbles => exact ⟨_, _, block_of_garbles f meets request garbles⟩
  | absent meets request gives => exact ⟨_, _, block_of_absent f meets request gives⟩
  | number meets request gives other =>
    exact ⟨_, _, block_of_other_number f meets request gives other⟩
  | @receipt x b ts more t ys receipts c' gathered transactions unreceipted =>
    obtain ⟨e, c'', failed⟩ := receipts_of_unreceipted unreceipted height.toNat more
    exact ⟨e, c'', block_of_gathered_error f gathered transactions failed⟩

/-- The node answers with a fault, or the client gets the block with all its receipts, or it does
not. -/
theorem fault_or_gathered_or_unfetched (c : Client) (height : UInt64) :
    (∃ x rest fault, c.Meets x rest ∧ x.request = blockRequest c.nextId height ∧
      x.response.fault = some fault) ∨
    (∃ x b ys receipts c', c.Gathered height x b b.transactions ys receipts c') ∨
    c.Unfetched height := by
  rcases c.meets_or_unanswered (blockRequest c.nextId height) with
    ⟨x, rest, request, meets⟩ | unanswered
  · rcases x.cases readBlock with ⟨fault, faulty⟩ | garbles | ⟨_ | b, gives⟩
    · exact .inl ⟨x, rest, fault, meets, request, faulty⟩
    · exact .inr (.inr (.garbled meets request garbles))
    · exact .inr (.inr (.absent meets request gives))
    · by_cases number : b.number = height
      · rcases (c.after x rest).collected_or_unreceipted b.transactions with
          ⟨ys, receipts, c', exchanged, collected⟩ |
          ⟨ts, t, more, ys, receipts, c', transactions, exchanged, collected, unreceipted⟩
        · exact .inr (.inl ⟨x, b, ys, receipts, c', .cons meets exchanged, request, gives, number,
            collected⟩)
        · exact .inr (.inr (.receipt ⟨.cons meets exchanged, request, gives, number, collected⟩
            transactions unreceipted))
      · exact .inr (.inr (.number meets request gives number))
  · exact .inr (.inr (.unanswered unanswered))

/-- A block that comes back stands for a height that the node has no block for, or it is put
together from the block that the node has there and the receipts of all its transactions. -/
theorem cases_of_block {block : Block} (ok : c.block f height = (.ok block, c')) :
    (block = .empty f.chainId height ∧ f.emptyBlocks = true ∧ ∃ x fault,
      c.Exchanged [x] c' ∧ x.request = blockRequest c.nextId height ∧
      x.response.fault = some fault ∧ fault.Mentions missingBlockMarker) ∨
    ∃ x b ys receipts, c.Gathered height x b b.transactions ys receipts c' ∧
      b.toBlock f.chainId receipts = .ok block := by
  rcases c.fault_or_gathered_or_unfetched height with
    ⟨x, rest, fault, meets, request, faulty⟩ | ⟨x, b, ys, receipts, c'', gathered⟩ | unfetched
  · by_cases missing : fault.Mentions missingBlockMarker ∧ f.emptyBlocks = true
    · obtain ⟨mentions, empties⟩ := missing
      rw [block_of_missing f meets request faulty mentions empties] at ok
      cases ok
      exact .inl ⟨rfl, empties, x, fault, .cons meets .nil, request, faulty, mentions⟩
    · have refused : fault.Mentions missingBlockMarker → f.emptyBlocks = false :=
        fun mentions => Bool.eq_false_iff.mpr fun empties => missing ⟨mentions, empties⟩
      obtain ⟨e, failed⟩ := block_of_fault f meets request faulty refused
      rw [failed] at ok
      cases ok
  · rw [block_of_gathered f gathered, Prod.mk.injEq] at ok
    obtain ⟨built, rfl⟩ := ok
    exact .inr ⟨x, b, ys, receipts, gathered, built⟩
  · obtain ⟨e, c'', failed⟩ := block_of_unfetched f unfetched
    rw [failed] at ok
    cases ok

end Client

end BlockIndexer.Rpc
