import BlockIndexer.Proofs.Row.Checks

/-! Which blocks can be mapped onto rows. Under the lenient policy they are those whose numbers fit
their columns; the strict policy asks for literals that write numbers as well, and gives the same
rows wherever it gives any. What the NEAR chain says of a block has no part in it. -/

namespace BlockIndexer

variable {policy : NumericPolicy}

namespace Check

@[simp] theorem error?_column {bits n : Nat} {field : String} :
    (column bits field n).error? policy = none ↔ FitsIn bits n := by
  simp [error?]

@[simp] theorem error?_quantity {field : String} {q : Quantity} :
    (quantity field q).error? policy = none ↔ (policy = .strict → q.value?.isSome) := by
  cases h : q.value? <;> cases policy <;> simp [error?, h]

@[simp] theorem error?_ofQuantity {entry : String × Quantity} :
    (ofQuantity entry).error? policy = none ↔ (policy = .strict → entry.2.value?.isSome) :=
  error?_quantity

/-- The quantity that a check is about. -/
def quantity? : Check → Option (String × Quantity)
  | .column .. => none
  | .quantity field q => some (field, q)

/-- Where no column fails, the first malformed literal gives the error. -/
theorem firstError?_strict {checks : List Check}
    (columns : ∀ check ∈ checks, check.error? .lenient = none) :
    firstError? .strict checks =
      ((checks.filterMap quantity?).find? (·.2.value?.isNone)).map
        fun entry => .numeric entry.1 entry.2.literal := by
  induction checks with
  | nil => rfl
  | cons check checks ih =>
    obtain ⟨passes, columns⟩ := List.forall_mem_cons.mp columns
    rw [firstError?, List.findSome?_cons, ← firstError?, ih columns]
    cases check with
    | column bits field n =>
      rw [error?_column.mpr (error?_column.mp passes)]
      rfl
    | quantity field q => cases h : q.value? <;> simp [error?, quantity?, h]

end Check

/-- What the first computation gives, the second one gives too. -/
structure Refines (x y : Except ε α) : Prop where
  ok_of_ok : ∀ a, x = .ok a → y = .ok a

namespace Refines

theorem refl (x : Except ε α) : Refines x x := ⟨fun _ h => h⟩

theorem bind {x y : Except ε α} {f g : α → Except ε β} (first : Refines x y)
    (rest : ∀ a, Refines (f a) (g a)) : Refines (x >>= f) (y >>= g) := by
  refine ⟨fun b h => ?_⟩
  obtain ⟨a, ha, hb⟩ := bind_eq_ok.mp h
  exact bind_eq_ok.mpr ⟨a, first.ok_of_ok a ha, (rest a).ok_of_ok b hb⟩

theorem mapM {f g : α → Except ε β} (each : ∀ a, Refines (f a) (g a)) (as : List α) :
    Refines (as.mapM f) (as.mapM g) := by
  induction as with
  | nil => exact refl _
  | cons a as ih =>
    rw [List.mapM_cons, List.mapM_cons]
    exact (each a).bind fun _ => ih.bind fun _ => refl _

theorem render (field : String) (q : Quantity) :
    Refines (q.render .strict field) (q.render .lenient field) := by
  refine ⟨fun text h => ?_⟩
  unfold Quantity.render at h ⊢
  cases decimal : q.decimal? with
  | none =>
    rw [decimal] at h
    contradiction
  | some _ =>
    rw [decimal] at h
    exact h

end Refines

/-- The numbers of a block fit the columns they are written to. -/
structure Block.FitsColumns (b : Block) : Prop where
  chain : FitsIn 63 b.chainId.toNat
  height : FitsIn 63 b.height.toNat
  sequence : ∀ n ∈ b.sequence, FitsIn 63 n
  indices : ∀ t ∈ b.transactions, FitsIn 31 t.index.toNat

namespace Transaction

theorem passes_iff {height : Nat} {t : Transaction} (logs : FitsIn 31 t.logs.length) :
    (∀ check ∈ t.checks height, check.error? policy = none) ↔
      FitsIn 63 height ∧ FitsIn 31 t.index.toNat ∧
        ∀ entry ∈ t.quantities, policy = .strict → entry.2.value?.isSome := by
  have events : ∀ n ∈ List.range t.logs.length, FitsIn 31 n := fun n hn =>
    Nat.lt_trans (List.mem_range.mp hn) logs
  simp only [checks, List.forall_mem_append, List.forall_mem_cons, List.forall_mem_map,
    List.not_mem_nil, false_implies, implies_true, Check.error?_column, Check.error?_ofQuantity,
    iff_true_intro events, and_true, and_assoc]

theorem quantities_of_checks (height : Nat) (t : Transaction) :
    (t.checks height).filterMap Check.quantity? = t.quantities := by
  have events : (List.range t.logs.length).filterMap
      (Check.quantity? ∘ Check.column 31 "event.index") = [] :=
    List.filterMap_eq_nil_iff.mpr fun _ _ => rfl
  rw [checks, List.filterMap_append, List.filterMap_map, events, List.append_nil]
  rfl

theorem refines_toRow (height : Nat) (t : Transaction) :
    Refines (t.toRow .strict height) (t.toRow .lenient height) := by
  -- Two columns, which no policy is asked about, and then eight quantities.
  refine .bind (.refl _) fun _ => .bind (.refl _) fun _ => ?_
  refine .bind (.render ..) fun _ => .bind (.render ..) fun _ => .bind (.render ..) fun _ => ?_
  refine .bind (.render ..) fun _ => .bind (.render ..) fun _ => .bind (.render ..) fun _ => ?_
  exact .bind (.render ..) fun _ => .bind (.render ..) fun _ => .refl _

theorem refines_toRows (height : Nat) (t : Transaction) :
    Refines (t.toRows .strict height) (t.toRows .lenient height) :=
  (t.refines_toRow height).bind fun _ => .refl _

end Transaction

namespace Block

variable {b : Block}

theorem passes_iff (logs : ∀ t ∈ b.transactions, FitsIn 31 t.logs.length) :
    (∀ check ∈ b.checks, check.error? policy = none) ↔
      b.FitsColumns ∧ ∀ entry ∈ b.quantities, policy = .strict → entry.2.value?.isSome := by
  simp only [checks, quantities, List.forall_mem_append, List.forall_mem_cons,
    List.forall_mem_map, List.forall_mem_flatMap, List.not_mem_nil, false_implies, implies_true,
    Option.mem_toList, Check.error?_column, Check.error?_ofQuantity, and_true]
  constructor
  · rintro ⟨⟨⟨⟨chain, height⟩, own⟩, sequence⟩, transactions⟩
    have each := fun t ht => (Transaction.passes_iff (logs t ht)).mp (transactions t ht)
    exact ⟨⟨chain, height, sequence, fun t ht => (each t ht).2.1⟩, own,
      fun t ht => (each t ht).2.2⟩
  · rintro ⟨fits, own, transactions⟩
    refine ⟨⟨⟨⟨fits.chain, fits.height⟩, own⟩, fits.sequence⟩, fun t ht => ?_⟩
    exact (Transaction.passes_iff (logs t ht)).mpr
      ⟨fits.height, fits.indices t ht, transactions t ht⟩

theorem quantities_of_checks (b : Block) : b.checks.filterMap Check.quantity? = b.quantities := by
  have sequence : b.sequence.toList.filterMap
      (Check.quantity? ∘ Check.column 63 "block.sequence") = [] :=
    List.filterMap_eq_nil_iff.mpr fun _ _ => rfl
  rw [checks, List.filterMap_append, List.filterMap_append, List.filterMap_map, sequence,
    List.append_nil, List.filterMap_flatMap]
  simp only [Transaction.quantities_of_checks]
  rfl

theorem refines_toRow (b : Block) : Refines (b.toRow .strict) (b.toRow .lenient) := by
  refine .bind (.refl _) fun _ => .bind (.refl _) fun _ => ?_
  exact .bind (.render ..) fun _ => .bind (.render ..) fun _ => .bind (.render ..) fun _ => .refl _

theorem refines_toRows (b : Block) : Refines (b.toRows .strict) (b.toRows .lenient) :=
  b.refines_toRow.bind fun _ =>
    (Refines.mapM (Transaction.refines_toRows _) b.transactions).bind fun _ => .refl _

/-- The block without what the NEAR chain says of it and its transactions. -/
def withoutNear (b : Block) : Block :=
  { b with near := none, transactions := b.transactions.map ({ · with near := none }) }

theorem checks_withoutNear (b : Block) : b.withoutNear.checks = b.checks := by
  have transactions : b.withoutNear.transactions.flatMap (Transaction.checks b.height.toNat) =
      b.transactions.flatMap (Transaction.checks b.height.toNat) := List.flatMap_map ..
  rw [checks, checks, ← transactions]
  rfl

/-- The lenient policy maps exactly the blocks that fit, the strict policy those of them whose
literals all write numbers, and to the same rows. Where a literal does not, the strict policy names
the first one in the order of rendering. No hash of the NEAR chain makes a mapping fail. The time is
one whose second begins within 64 bits, and the row has the beginning of that second. -/
theorem maps_what_fits (b : Block) (time : -9223372036000000000 ≤ b.timestamp.toInt)
    (logs : ∀ t ∈ b.transactions, FitsIn 31 t.logs.length) :
    ((∃ rows, b.toRows .lenient = .ok rows) ↔ b.FitsColumns) ∧
    ((∃ rows, b.toRows .strict = .ok rows) ↔
      b.FitsColumns ∧ ∀ entry ∈ b.quantities, entry.2.value?.isSome) ∧
    (∀ rows, b.toRows .strict = .ok rows → b.toRows .lenient = .ok rows) ∧
    (∀ rows e, b.toRows .lenient = .ok rows → b.toRows .strict = .error e →
      ∃ entry, b.quantities.find? (·.2.value?.isNone) = some entry ∧
        e = .numeric entry.1 entry.2.literal) ∧
    (∀ policy e, b.toRows policy = .error e ↔ b.withoutNear.toRows policy = .error e) ∧
    ∀ policy rows, b.toRows policy = .ok rows →
      Int64.minValue.toInt ≤ rows.block.timestamp ∧
        rows.block.timestamp ≤ Int64.maxValue.toInt ∧
        rows.block.timestamp = b.timestamp.toInt / 1000000000 * 1000000000 := by
  refine ⟨?_, ?_, b.refines_toRows.ok_of_ok, fun rows e ok error => ?_, fun policy e => ?_,
    fun policy rows ok => ?_⟩
  · rw [b.failsAs_toRows.ok_iff, passes_iff logs]
    simp
  · rw [b.failsAs_toRows.ok_iff, passes_iff logs]
    simp
  · have columns := b.failsAs_toRows.ok_iff.mp ⟨rows, ok⟩
    have first := (b.failsAs_toRows.error_iff e).mp error
    rw [Check.firstError?_strict columns, quantities_of_checks, Option.map_eq_some_iff] at first
    obtain ⟨entry, found, rfl⟩ := first
    exact ⟨entry, found, rfl⟩
  · rw [b.failsAs_toRows.error_iff, b.withoutNear.failsAs_toRows.error_iff, checks_withoutNear]
  · have below := b.timestamp.toInt_lt
    rw [timestamp_of_time time ok, Int64.toInt_minValue, Int64.toInt_maxValue]
    omega

/-- A block at the earliest time with a second transaction that has two malformed literals, and
with a hash on the NEAR chain that is not base 58. -/
def malformed : Block :=
  let tx : Transaction :=
    { hash := .zero, blockHash := .zero, blockHeight := 5, chainId := 1, index := 0,
      sender := .zero, recipient := none, nonce := ⟨"0x10"⟩, gasPrice := .absent,
      gasLimit := .absent, gasUsed := 0, maxPriorityFeePerGas := .absent, maxFeePerGas := .absent,
      value := .absent, input := [], output := [], accessList := [], txType := 0, status := true,
      logs := [⟨.zero, [], []⟩], contractAddress := none, v := 0, r := .absent, s := .absent,
      near := none }
  { Block.empty 1 5 with
    timestamp := -9223372036000000000
    near := some (.existing ⟨"0OIl", "", ""⟩)
    transactions := [tx, { tx with index := 1, gasPrice := ⟨"0xzz"⟩, value := ⟨"-1"⟩ }] }

theorem malformed_maps_leniently :
    (∃ rows, malformed.toRows .lenient = .ok rows ∧
      Int64.minValue.toInt ≤ rows.block.timestamp) ∧
    malformed.toRows .strict = .error (.numeric "transaction.gas_price" "0xzz") ∧
    malformed.withoutNear.toRows .strict =
      .error (.numeric "transaction.gas_price" "0xzz") := by
  obtain ⟨lenient, strict, -, first, near, time⟩ :=
    maps_what_fits malformed (by decide) (by decide)
  have fits : malformed.FitsColumns := ⟨by decide, by decide, by decide, by decide⟩
  obtain ⟨rows, ok⟩ := lenient.mpr fits
  have found : malformed.quantities.find? (·.2.value?.isNone) =
      some ("transaction.gas_price", ⟨"0xzz"⟩) := by decide +kernel
  have fails : malformed.toRows .strict = .error (.numeric "transaction.gas_price" "0xzz") := by
    cases error : malformed.toRows .strict with
    | ok rows =>
      have parses := (strict.mp ⟨rows, error⟩).2 _ (List.mem_of_find?_eq_some found)
      exact absurd parses (by decide +kernel)
    | error e =>
      obtain ⟨entry, first, rfl⟩ := first rows e ok error
      rw [found] at first
      cases first
      rfl
  exact ⟨⟨rows, ok, (time _ rows ok).1⟩, fails, (near _ _).mp fails⟩

end Block

end BlockIndexer
