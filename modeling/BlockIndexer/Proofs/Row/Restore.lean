import BlockIndexer.Proofs.Block.RoundTrip
import BlockIndexer.Proofs.Quantity
import BlockIndexer.Proofs.Row.Mapping

/-! What rows keep of a block. All of it can be read back from them but the spelling of its
quantities, the fraction of its second, what the NEAR chain says of it, and what each transaction
repeats of its block. Two blocks with the same rows differ in nothing else. -/

namespace BlockIndexer

open Json (Document document)

variable {policy : NumericPolicy} {field : String}

/-! ### What is kept -/

/-- The number that a quantity is rendered as, where it is rendered at all. -/
def Quantity.amount (q : Quantity) : Nat := q.value?.getD 0

/-- The same amount in its usual spelling. -/
def Quantity.plain (q : Quantity) : Quantity := .ofNat q.amount

namespace Transaction

/-- The transaction without what its block says too and what the NEAR chain says, and with its
quantities in their usual spelling. -/
def stored (t : Transaction) : Transaction :=
  { t with
    blockHash := .zero
    blockHeight := 0
    chainId := 0
    near := none
    nonce := t.nonce.plain
    gasPrice := t.gasPrice.plain
    gasLimit := t.gasLimit.plain
    maxPriorityFeePerGas := t.maxPriorityFeePerGas.plain
    maxFeePerGas := t.maxFeePerGas.plain
    value := t.value.plain
    r := t.r.plain
    s := t.s.plain }

end Transaction

namespace Block

/-- The block at the beginning of its second without what the NEAR chain says of it, with its
quantities in their usual spelling and its transactions as they are stored. -/
def stored (b : Block) : Block :=
  { b with
    timestamp := .ofInt (b.timestamp.toInt / 1000000000 * 1000000000)
    near := none
    gasLimit := b.gasLimit.plain
    gasUsed := b.gasUsed.plain
    size := b.size.plain
    transactions := b.transactions.map Transaction.stored }

end Block

/-! ### Reading back -/

def LogRow.restore (row : LogRow) : Log where
  address := row.sender
  topics := row.topics.getD []
  data := row.data.getD []

namespace TransactionRows

def restore (rows : TransactionRows) : Transaction where
  hash := rows.row.hash
  blockHash := .zero
  blockHeight := 0
  chainId := 0
  index := .ofNat rows.row.index
  sender := rows.row.sender
  recipient := rows.row.recipient
  nonce := ⟨rows.row.nonce⟩
  gasPrice := ⟨rows.row.gasPrice⟩
  gasLimit := ⟨rows.row.gasLimit⟩
  gasUsed := .ofNat (Quantity.mk rows.row.gasUsed).amount
  maxPriorityFeePerGas := ⟨rows.row.maxPriorityFeePerGas⟩
  maxFeePerGas := ⟨rows.row.maxFeePerGas⟩
  value := ⟨rows.row.value⟩
  input := rows.row.input.getD []
  output := rows.row.output.getD []
  accessList :=
    ((document rows.row.accessList).array? AccessListItem.ofDocument?).getD []
  txType := .ofNat rows.row.txType
  status := rows.row.status
  logs := rows.logs.map LogRow.restore
  contractAddress := rows.row.contractAddress
  v := .ofNat (Quantity.mk rows.row.v).amount
  r := ⟨rows.row.r⟩
  s := ⟨rows.row.s⟩
  near := none

def withoutNear (rows : TransactionRows) : TransactionRows :=
  { rows with row := { rows.row with nearHash := none, nearReceiptHash := none } }

end TransactionRows

namespace BlockRows

def restore (rows : BlockRows) : Block where
  chainId := .ofNat rows.block.chain
  hash := rows.block.hash
  parentHash := rows.block.parentHash
  height := .ofNat rows.block.id
  miner := rows.block.miner
  timestamp := .ofInt rows.block.timestamp
  gasLimit := ⟨rows.block.gasLimit⟩
  gasUsed := ⟨rows.block.gasUsed⟩
  logsBloom := rows.block.logsBloom.getD []
  transactionsRoot := rows.block.transactionsRoot
  receiptsRoot := rows.block.receiptsRoot
  stateRoot := rows.block.stateRoot
  size := ⟨rows.block.size⟩
  transactions := rows.transactions.map TransactionRows.restore
  near := none
  sequence := rows.block.sequence

/-- The rows without the columns that are about the NEAR chain. -/
def withoutNear (rows : BlockRows) : BlockRows where
  block := { rows.block with nearHash := none, author := none }
  transactions := rows.transactions.map TransactionRows.withoutNear

end BlockRows

/-! ### Columns -/

namespace Quantity

variable {q : Quantity} {text : String}

theorem render_eq_ok (rendered : q.render policy field = .ok text) :
    text = q.amount.repr ∧ q.amount < 2 ^ 256 := by
  cases value : q.value? with
  | some v =>
    rw [render_of_value value, Except.ok.injEq] at rendered
    rw [amount, value, Option.getD_some]
    exact ⟨rendered.symm, (value?_eq_some_iff.mp value).2⟩
  | none =>
    rw [render_of_none value] at rendered
    rw [amount, value, Option.getD_none]
    cases policy with
    | strict => contradiction
    | lenient => exact ⟨(Except.ok.inj rendered).symm, Nat.two_pow_pos 256⟩

/-- Whatever the policy, the text of a quantity is its amount. -/
theorem plain_of_render (rendered : q.render policy field = .ok text) : q.plain = ⟨text⟩ := by
  rw [(render_eq_ok rendered).1]
  rfl

theorem render_plain (rendered : q.render policy field = .ok text) :
    q.plain.render policy field = .ok text := by
  obtain ⟨rfl, fits⟩ := render_eq_ok rendered
  exact render_of_value (value?_ofNat fits)

theorem amount_repr (n : UInt64) : (⟨n.toNat.repr⟩ : Quantity).amount = n.toNat := by
  have fits : n.toNat < 2 ^ 256 := Nat.lt_trans n.toNat_lt (by decide)
  have value : (⟨n.toNat.repr⟩ : Quantity).value? = some n.toNat := value?_ofNat fits
  rw [amount, value, Option.getD_some]

end Quantity

theorem BlockRows.restore_withoutNear (rows : BlockRows) :
    rows.withoutNear.restore = rows.restore := by
  rw [restore, withoutNear, List.map_map]
  rfl

@[simp] theorem getD_nonEmpty (xs : List α) : (nonEmpty xs).getD [] = xs := by
  cases xs <;> rfl

theorem array?_accessList (items : List AccessListItem) :
    (document (.array (items.map AccessListItem.toValue))).array? AccessListItem.ofDocument? =
      some items :=
  (listSpells_document AccessListItem.spells_document items).array?
    AccessListItem.Spells.ofDocument?

/-- At the beginning of a second that second begins. -/
theorem wholeSecond_ofInt {t : Int64} (time : -9223372036000000000 ≤ t.toInt) :
    (wholeSecond (.ofInt (t.toInt / 1000000000 * 1000000000))).toInt =
      (wholeSecond t).toInt := by
  have below := t.toInt_lt
  have inside : (Int64.ofInt (t.toInt / 1000000000 * 1000000000)).toInt =
      t.toInt / 1000000000 * 1000000000 := Int64.toInt_ofInt_of_le (by omega) (by omega)
  rw [toInt_wholeSecond (by omega), inside, toInt_wholeSecond time]
  omega

/-! ### Rows and what they keep -/

theorem restore_of_toRow {index : Nat} {log : Log} {row : LogRow}
    (h : log.toRow index = .ok row) : row.restore = log := by
  simp only [Log.toRow, bind_eq_ok, pure_eq_ok] at h
  obtain ⟨_, -, rfl⟩ := h
  simp only [LogRow.restore, getD_nonEmpty]

theorem restore_of_logRows {index : Nat} {logs : List Log} {rows : List LogRow}
    (h : logRows index logs = .ok rows) : rows.map LogRow.restore = logs := by
  induction logs generalizing index rows with
  | nil =>
    simp only [logRows, Except.ok.injEq] at h
    rw [← h, List.map_nil]
  | cons log logs ih =>
    simp only [logRows, bind_eq_ok, pure_eq_ok] at h
    obtain ⟨row, hrow, rest, hrest, rfl⟩ := h
    rw [List.map_cons, restore_of_toRow hrow, ih hrest]

namespace Transaction

variable {height : Nat} {t : Transaction} {rows : TransactionRows}

theorem restore_of_toRows (h : t.toRows policy height = .ok rows) : rows.restore = t.stored := by
  simp only [toRows, toRow, bind_eq_ok, column_eq_ok, pure_eq_ok] at h
  obtain ⟨_, ⟨_, -, _, ⟨-, rfl⟩, _, nonce, _, gasPrice, _, gasLimit, _, value, _, r, _, s, _,
    maxFee, _, maxPriorityFee, rfl⟩, logs, hlogs, rfl⟩ := h
  rw [TransactionRows.restore, stored]
  simp only [Quantity.plain_of_render nonce, Quantity.plain_of_render gasPrice,
    Quantity.plain_of_render gasLimit, Quantity.plain_of_render value, Quantity.plain_of_render r,
    Quantity.plain_of_render s, Quantity.plain_of_render maxFee,
    Quantity.plain_of_render maxPriorityFee, Quantity.amount_repr, getD_nonEmpty,
    array?_accessList, Option.getD_some, restore_of_logRows hlogs, UInt8.ofNat_toNat,
    UInt32.ofNat_toNat, UInt64.ofNat_toNat]

theorem toRows_stored (h : t.toRows policy height = .ok rows) :
    t.stored.toRows policy height = .ok rows.withoutNear := by
  simp only [toRows, toRow, bind_eq_ok, column_eq_ok, pure_eq_ok] at h ⊢
  obtain ⟨_, ⟨_, ⟨heightFits, rfl⟩, _, ⟨indexFits, rfl⟩, _, nonce, _, gasPrice, _, gasLimit, _,
    value, _, r, _, s, _, maxFee, _, maxPriorityFee, rfl⟩, logs, hlogs, rfl⟩ := h
  refine ⟨_, ⟨_, ⟨heightFits, rfl⟩, _, ⟨indexFits, rfl⟩, ?_⟩, logs, hlogs, rfl⟩
  exact ⟨_, Quantity.render_plain nonce, _, Quantity.render_plain gasPrice, _,
    Quantity.render_plain gasLimit, _, Quantity.render_plain value, _, Quantity.render_plain r, _,
    Quantity.render_plain s, _, Quantity.render_plain maxFee, _,
    Quantity.render_plain maxPriorityFee, rfl⟩

theorem mapM_stored {ts : List Transaction} {all : List TransactionRows}
    (h : ts.mapM (toRows policy height) = .ok all) :
    (ts.map stored).mapM (toRows policy height) = .ok (all.map TransactionRows.withoutNear) := by
  induction ts generalizing all with
  | nil =>
    simp only [List.mapM_nil, pure_eq_ok] at h
    subst h
    rfl
  | cons t ts ih =>
    simp only [List.mapM_cons, bind_eq_ok, pure_eq_ok] at h
    obtain ⟨rows, hrows, rest, hrest, rfl⟩ := h
    simp only [List.map_cons, List.mapM_cons, bind_eq_ok, pure_eq_ok]
    exact ⟨_, toRows_stored hrows, _, ih hrest, rfl⟩

end Transaction

namespace Block

variable {b b' : Block} {rows rows' : BlockRows}

/-- A block is read back from its rows as far as they keep it. -/
theorem restore_of_toRows (time : -9223372036000000000 ≤ b.timestamp.toInt)
    (h : b.toRows policy = .ok rows) : rows.restore = b.stored := by
  simp only [toRows, toRow, bind_eq_ok, column_eq_ok, pure_eq_ok] at h
  obtain ⟨_, ⟨_, ⟨-, rfl⟩, _, ⟨-, rfl⟩, _, size, _, gasLimit, _, gasUsed, _, hsequence, rfl⟩,
    transactions, mapped, rfl⟩ := h
  obtain ⟨rfl, -⟩ := sequence_of_mapM hsequence
  have same := map_of_mapM (fun _ _ => Transaction.restore_of_toRows) mapped
  rw [BlockRows.restore, stored]
  simp only [Quantity.plain_of_render size, Quantity.plain_of_render gasLimit,
    Quantity.plain_of_render gasUsed, getD_nonEmpty, UInt64.ofNat_toNat, toInt_wholeSecond time,
    same]

/-- What is kept of a block is mapped onto the same rows, those about the NEAR chain apart. -/
theorem toRows_stored (time : -9223372036000000000 ≤ b.timestamp.toInt)
    (h : b.toRows policy = .ok rows) : b.stored.toRows policy = .ok rows.withoutNear := by
  simp only [toRows, toRow, bind_eq_ok, column_eq_ok, pure_eq_ok] at h ⊢
  obtain ⟨_, ⟨_, ⟨chainFits, rfl⟩, _, ⟨heightFits, rfl⟩, _, size, _, gasLimit, _, gasUsed,
    sequence, hsequence, rfl⟩, transactions, mapped, rfl⟩ := h
  refine ⟨_, ⟨_, ⟨chainFits, rfl⟩, _, ⟨heightFits, rfl⟩, _, Quantity.render_plain size, _,
    Quantity.render_plain gasLimit, _, Quantity.render_plain gasUsed, _, hsequence, rfl⟩,
    _, Transaction.mapM_stored mapped, ?_⟩
  simp only [stored, BlockRows.withoutNear, wholeSecond_ofInt time]
  rfl

/-- Blocks with the same rows agree in all that is kept, and their times in the second. Blocks that
agree in it have the same rows, what the NEAR chain says apart. Their seconds begin within 64
bits. -/
theorem rows_distinguish (time : -9223372036000000000 ≤ b.timestamp.toInt)
    (time' : -9223372036000000000 ≤ b'.timestamp.toInt) (ok : b.toRows policy = .ok rows)
    (ok' : b'.toRows policy = .ok rows') :
    (rows = rows' → b.stored = b'.stored ∧
      b.timestamp.toInt / 1000000000 = b'.timestamp.toInt / 1000000000) ∧
    (rows.withoutNear = rows'.withoutNear ↔ b.stored = b'.stored) := by
  have kept : rows.withoutNear = rows'.withoutNear → b.stored = b'.stored := by
    intro same
    rw [← restore_of_toRows time ok, ← restore_of_toRows time' ok', ← rows.restore_withoutNear,
      same, rows'.restore_withoutNear]
  refine ⟨fun same => ?_, kept, fun same => ?_⟩
  · have begins := timestamp_of_time time ok
    rw [same, timestamp_of_time time' ok'] at begins
    exact ⟨kept (congrArg _ same), by omega⟩
  · have mapped := toRows_stored time ok
    rw [same, toRows_stored time' ok'] at mapped
    exact (Except.ok.inj mapped).symm

/-- A block with one transaction, which has an access list and two events. -/
def spelled : Block :=
  let tx : Transaction :=
    { hash := .zero, blockHash := .zero, blockHeight := 5, chainId := 1, index := 0,
      sender := .zero, recipient := none, nonce := ⟨"0x10"⟩, gasPrice := ⟨"0b1"⟩,
      gasLimit := .absent, gasUsed := 21000, maxPriorityFeePerGas := .absent,
      maxFeePerGas := .absent, value := ⟨"unknown"⟩, input := [], output := [0],
      accessList := [⟨.zero, [.zero, .zero]⟩], txType := 2, status := true,
      logs := [⟨.zero, [], [7]⟩, ⟨.zero, [[1], []], []⟩], contractAddress := none, v := 37,
      r := .absent, s := .absent, near := none }
  { Block.empty 1 5 with timestamp := -1, near := none, transactions := [tx] }

/-- The same block spelled in another way, earlier in its second, with data of the NEAR chain. -/
def respelled : Block :=
  { spelled with
    timestamp := -1000000000
    gasUsed := ⟨"0x"⟩
    near := some (.existing ⟨"0OIl", "", ""⟩)
    transactions := spelled.transactions.map ({ · with
      blockHeight := 6, nonce := ⟨"1_6 "⟩, gasPrice := ⟨"01"⟩, value := .absent,
      near := some ⟨"", "0OIl"⟩ }) }

theorem spelled_alike : spelled ≠ respelled ∧ ∃ rows, spelled.toRows .lenient = .ok rows ∧
    respelled.toRows .lenient = .ok rows ∧ spelled.stored = respelled.stored ∧
    spelled.timestamp.toInt / 1000000000 = respelled.timestamp.toInt / 1000000000 := by
  refine ⟨by decide, ?_⟩
  have same : respelled.toRows .lenient = spelled.toRows .lenient := by rfl
  have maps : (spelled.toRows .lenient).isOk = true := by decide +kernel
  cases ok : spelled.toRows .lenient with
  | error e =>
    rw [ok] at maps
    contradiction
  | ok rows =>
    have ok' := same.trans ok
    exact ⟨rows, rfl, ok', (rows_distinguish (by decide) (by decide) ok ok').1 rfl⟩

end Block

end BlockIndexer
