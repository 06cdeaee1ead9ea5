import BlockIndexer.Proofs.Block.Decoding
import BlockIndexer.Proofs.Row.Acceptance
import BlockIndexer.Proofs.Rpc.Join

/-! Times of blocks. A node gives them in seconds, and a block is made of its answer as long as they
fit in a signed word as nanoseconds. A log gives nanoseconds. A row has the beginning of the second
that the time lies in. This is a word, too, but for the times at the lower end of the words that lie
in a second which begins before them. -/

namespace BlockIndexer

open Json (Document)

/-! ### Seconds -/

theorem secondWord_in_word {t : Int64} :
    Int64.minValue.toInt ≤ (secondWord t).toInt * 1000000000 ∧
        (secondWord t).toInt * 1000000000 ≤ Int64.maxValue.toInt ↔
      -9223372036000000000 ≤ t.toInt := by
  have high := t.toInt_lt
  rw [toInt_secondWord, Int64.toInt_minValue, Int64.toInt_maxValue]
  omega

/-- The row's time is the beginning of a second, counted from 1970. -/
def BlockRow.BeginsSecond (row : BlockRow) (second : Int) : Prop :=
  row.timestamp / 1000000000 = second ∧ row.timestamp % 1000000000 = 0

theorem Block.beginsSecond_of_toRows {b : Block} {policy : NumericPolicy} {rows : BlockRows}
    (time : -9223372036000000000 ≤ b.timestamp.toInt) (ok : b.toRows policy = .ok rows) :
    rows.block.BeginsSecond (b.timestamp.toInt / 1000000000) := by
  rw [BlockRow.BeginsSecond, timestamp_of_time time ok]
  omega

/-! ### The two ways to a block -/

namespace Rpc

variable {b : NodeBlock} {chainId : UInt64} {receipts : List Receipt}

theorem nanoseconds_eq_error {seconds : Nat} (large : Int64.maxValue.toInt < seconds * 1000000000)
    (height : Nat) :
    nanoseconds height seconds =
      .error (.protocol s!"timestamp {seconds} out of range in #{height}") := by
  refine if_neg fun fits => ?_
  rw [Int64.toInt_maxValue] at large
  rw [FitsIn, Nat.one_shiftLeft] at fits
  omega

theorem nanoseconds_eq_ok {seconds : Nat} (small : seconds * 1000000000 ≤ Int64.maxValue.toInt)
    (height : Nat) :
    ∃ t, nanoseconds height seconds = .ok t ∧ t.toInt = seconds * 1000000000 := by
  rw [Int64.toInt_maxValue] at small
  have few : seconds * 1000000000 < 2 ^ 63 := by omega
  refine ⟨.ofNat (seconds * 1000000000), if_pos ?_, ?_⟩
  · rw [FitsIn, Nat.one_shiftLeft]
    exact few
  · rw [Int64.toInt_ofNat_of_lt few]
    rfl

theorem toBlock_of_late (late : Int64.maxValue.toInt < b.timestamp.toNat * 1000000000)
    (chainId : UInt64) (receipts : List Receipt) :
    b.toBlock chainId receipts = .error (.protocol
      s!"timestamp {b.timestamp.toNat} out of range in #{b.number.toNat}") := by
  rw [NodeBlock.toBlock, nanoseconds_eq_error late]
  rfl

/-- Some receipts may be missing, or there may be too many. -/
theorem toBlock_of_time (fits : ∀ t ∈ b.transactions, t.Fits)
    (time : b.timestamp.toNat * 1000000000 ≤ Int64.maxValue.toInt) (chainId : UInt64)
    (receipts : List Receipt) :
    ∃ block, b.toBlock chainId receipts = .ok block ∧
      block.timestamp.toInt = b.timestamp.toNat * 1000000000 := by
  let n := min b.transactions.length receipts.length
  have lengths : (receipts.take n).length = (b.transactions.take n).length := by
    rw [List.length_take, List.length_take]
    omega
  obtain ⟨txs, mapped, -⟩ :=
    joined_of_fits (fun t mem => fits t (List.mem_of_mem_take mem)) lengths chainId b.number
  obtain ⟨t, found, value⟩ := nanoseconds_eq_ok time b.number.toNat
  rw [NodeBlock.toBlock, found, List.zip_eq_zip_take_min, mapped]
  exact ⟨_, rfl, value⟩

end Rpc

/-- A block has the time that stands in its document. -/
theorem Block.timestamp_of_ofDocument? {d : Document} {b : Block} (read : ofDocument? d = some b) :
    ∃ content, d.given shape ⟨"timestamp", []⟩ = [content] ∧
      content.int? = some b.timestamp.toInt := by
  obtain ⟨fields, own, -, timestamp, -⟩ := parts_of_ofDocument? read
  obtain ⟨content, found, reads⟩ := Option.bind_eq_some_iff.mp timestamp
  obtain ⟨i, written, word⟩ := Option.bind_eq_some_iff.mp reads
  obtain ⟨inside, same⟩ := Option.ite_none_right_eq_some.mp word
  rw [Int64.toInt_minValue, Int64.toInt_maxValue] at inside
  refine ⟨content, ?_, ?_⟩
  · rw [Document.given_of_fields? shape_wellSpelled (by decide) own, found]
    rfl
  · rw [← Option.some.inj same, Int64.toInt_ofInt_of_le (by omega) (by omega)]
    exact written

/-- A node's block is made if its seconds, as nanoseconds, are in a word, and its rows then have
these seconds. A log's block has the time that stands in its document. Its rows have the beginning
of the second that the time lies in, also before 1970, and a later block's rows no earlier one. In
words the product that gives it is right as far down as it is in a word, and no further. -/
theorem times_kept :
    (∀ (b : Rpc.NodeBlock) (chainId : UInt64) (receipts : List Rpc.Receipt),
      (∀ t ∈ b.transactions, t.Fits) →
        let seconds := b.timestamp.toNat
        (Int64.maxValue.toInt < seconds * 1000000000 →
          b.toBlock chainId receipts = .error (.protocol
            s!"timestamp {seconds} out of range in #{b.number.toNat}")) ∧
        (seconds * 1000000000 ≤ Int64.maxValue.toInt →
          ∃ block, b.toBlock chainId receipts = .ok block ∧
            ∀ policy rows, block.toRows policy = .ok rows → rows.block.BeginsSecond seconds)) ∧
    (∀ (d : Document) (b : Block), Block.ofDocument? d = some b →
      ∃ content, d.given Block.shape ⟨"timestamp", []⟩ = [content] ∧
        content.int? = some b.timestamp.toInt) ∧
    (∀ (b : Block) (policy : NumericPolicy) (rows : BlockRows),
      -9223372036000000000 ≤ b.timestamp.toInt → b.toRows policy = .ok rows →
        rows.block.BeginsSecond (b.timestamp.toInt / 1000000000) ∧
        rows.block.timestamp = (secondWord b.timestamp * 1000000000).toInt ∧
        rows.block.timestamp ≤ b.timestamp.toInt ∧
        b.timestamp.toInt < rows.block.timestamp + 1000000000) ∧
    (∀ (b b' : Block) (policy policy' : NumericPolicy) (rows rows' : BlockRows),
      -9223372036000000000 ≤ b.timestamp.toInt → b.timestamp ≤ b'.timestamp →
        b.toRows policy = .ok rows → b'.toRows policy' = .ok rows' →
          rows.block.timestamp ≤ rows'.block.timestamp) ∧
    (∀ t : Int64, (secondWord t).toInt = t.toInt / 1000000000 ∧
      (Int64.minValue.toInt ≤ (secondWord t).toInt * 1000000000 ∧
          (secondWord t).toInt * 1000000000 ≤ Int64.maxValue.toInt ↔
        -9223372036000000000 ≤ t.toInt)) := by
  refine ⟨fun b chainId receipts fits => ⟨fun late => ?_, fun time => ?_⟩,
    fun d b read => Block.timestamp_of_ofDocument? read, fun b policy rows time ok => ?_,
    fun b b' policy policy' rows rows' time le ok ok' => ?_, 
    fun t => ⟨toInt_secondWord t, secondWord_in_word⟩⟩
  · exact Rpc.toBlock_of_late late chainId receipts
  · obtain ⟨block, made, same⟩ := Rpc.toBlock_of_time fits time chainId receipts
    refine ⟨block, made, fun policy rows ok => ?_⟩
    have second := Block.beginsSecond_of_toRows (by omega) ok
    rwa [same, Int.mul_ediv_cancel _ (by decide)] at second
  · refine ⟨Block.beginsSecond_of_toRows time ok, Block.timestamp_of_toRows ok, ?_⟩
    rw [Block.timestamp_of_time time ok]
    omega
  · have le' := Int64.le_iff_toInt_le.mp le
    rw [Block.timestamp_of_time time ok, Block.timestamp_of_time (Int.le_trans time le') ok']
    omega

/-- An empty block of a node, at some time. -/
def emptyAnswer (seconds : UInt64) : Rpc.NodeBlock where
  number := 5
  hash := .zero
  parentHash := .zero
  miner := .zero
  timestamp := seconds
  gasLimit := .ofNat 0
  gasUsed := .ofNat 0
  logsBloom := []
  transactionsRoot := .zero
  receiptsRoot := .zero
  stateRoot := .zero
  size := .ofNat 0
  transactions := []

/-- The block that a log gives at some time, as empty. -/
def emptyAt (t : Int64) : Block := { Block.empty 1 5 with timestamp := t, near := none }

theorem exists_rows_emptyAt (t : Int64) : ∃ rows, (emptyAt t).toRows .lenient = .ok rows := by
  have none : ∀ tx ∈ (emptyAt t).transactions, FitsIn 31 tx.logs.length := List.forall_mem_nil _
  refine (emptyAt t).failsAs_toRows.ok_iff.mpr ((Block.passes_iff none).mpr ⟨?_, ?_⟩)
  · have small : FitsIn 63 1 ∧ FitsIn 63 5 := by decide
    exact ⟨small.1, small.2, fun _ sequence => (nomatch sequence), List.forall_mem_nil _⟩
  · exact fun _ _ strict => nomatch strict

theorem ends_of_time_kept :
    (∃ rows, (emptyAnswer 9223372036).toBlock 1 [] = .ok (emptyAt 9223372036000000000) ∧
      (emptyAt 9223372036000000000).toRows .lenient = .ok rows ∧
      rows.block.BeginsSecond 9223372036) ∧
    (emptyAnswer 9223372037).toBlock 1 [] =
      .error (.protocol "timestamp 9223372037 out of range in #5") ∧
    (∃ rows, (emptyAt (-1)).toRows .lenient = .ok rows ∧ rows.block.BeginsSecond (-1)) ∧
    (∃ rows, (emptyAt (-9223372036000000000)).toRows .lenient = .ok rows ∧
      rows.block.timestamp = -9223372036000000000) ∧
    ¬Int64.minValue.toInt ≤ (secondWord (-9223372036000000001)).toInt * 1000000000 := by
  obtain ⟨nodes, -, logs, -, words⟩ := times_kept
  obtain ⟨-, made⟩ := nodes (emptyAnswer 9223372036) 1 [] (List.forall_mem_nil _)
  obtain ⟨block, answer, second⟩ := made (by decide)
  have built : (emptyAnswer 9223372036).toBlock 1 [] = .ok (emptyAt 9223372036000000000) := by
    decide +kernel
  obtain rfl := Except.ok.inj (answer.symm.trans built)
  obtain ⟨late, -⟩ := nodes (emptyAnswer 9223372037) 1 [] (List.forall_mem_nil _)
  obtain ⟨rows, ok⟩ := exists_rows_emptyAt 9223372036000000000
  obtain ⟨last, lastRows⟩ := exists_rows_emptyAt (-1)
  obtain ⟨first, firstRows⟩ := exists_rows_emptyAt (-9223372036000000000)
  refine ⟨⟨rows, answer, ok, second .lenient rows ok⟩, late (by decide), ⟨last, lastRows, ?_⟩,
    ⟨first, firstRows, ?_⟩, ?_⟩
  · exact (logs _ .lenient last (by decide) lastRows).1
  · exact (logs _ .lenient first (by decide) firstRows).2.1.trans (by decide)
  · intro low
    exact absurd ((words (-9223372036000000001)).2.mp ⟨low, by decide⟩) (by decide)

end BlockIndexer
