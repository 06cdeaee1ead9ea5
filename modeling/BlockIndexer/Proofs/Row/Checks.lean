import BlockIndexer.Proofs.Row.Mapping

/-! The checks that a block goes through when it is mapped onto rows: numbers have to fit signed
columns, and literals have to write numbers if the policy asks for it. A mapping makes them one
after the other, and fails with the error of the first one that fails, if there is one. -/

namespace BlockIndexer

inductive Check where
  /-- A number has to fit a signed column with so many bits beside the sign. -/
  | column (bits : Nat) (field : String) (n : Nat)
  /-- The literal of a field has to write a number. -/
  | quantity (field : String) (q : Quantity)

namespace Check

def error? (policy : NumericPolicy) : Check → Option Error
  | .column bits field n =>
    if FitsIn bits n then none else some (.decode field s!"{n} does not fit the column")
  | .quantity field q =>
    match q.value?, policy with
    | none, .strict => some (.numeric field q.literal)
    | _, _ => none

/-- The error of the first check that fails. -/
def firstError? (policy : NumericPolicy) (checks : List Check) : Option Error :=
  checks.findSome? (error? policy)

def ofQuantity (entry : String × Quantity) : Check := .quantity entry.1 entry.2

end Check

/-- A computation fails if one of the checks does, and then with the error of the first one. -/
structure FailsAs (policy : NumericPolicy) (checks : List Check) (x : Except Error α) : Prop where
  error_iff : ∀ e, x = .error e ↔ Check.firstError? policy checks = some e

namespace FailsAs

variable {policy : NumericPolicy} {check : Check} {checks more : List Check} {x : Except Error α}

theorem ok_iff (fails : FailsAs policy checks x) :
    (∃ a, x = .ok a) ↔ ∀ check ∈ checks, check.error? policy = none := by
  have first : Check.firstError? policy checks = none ↔
      ∀ check ∈ checks, check.error? policy = none := List.findSome?_eq_none_iff
  rw [← first, Option.eq_none_iff_forall_ne_some]
  simp only [ne_eq, ← fails.error_iff]
  cases x <;> simp

theorem ok (a : α) : FailsAs policy [] (.ok a : Except Error α) :=
  ⟨fun e => by simp [Check.firstError?]⟩

theorem bind {f : α → Except Error β} (first : FailsAs policy checks x)
    (rest : ∀ a, FailsAs policy more (f a)) : FailsAs policy (checks ++ more) (x >>= f) := by
  refine ⟨fun e => ?_⟩
  have split : Check.firstError? policy (checks ++ more) =
      (Check.firstError? policy checks).or (Check.firstError? policy more) :=
    List.findSome?_append
  rw [split]
  cases x with
  | error e' =>
    rw [(first.error_iff e').mp rfl]
    simp [Bind.bind, Except.bind]
  | ok a =>
    have passes : Check.firstError? policy checks = none :=
      List.findSome?_eq_none_iff.mpr (first.ok_iff.mp ⟨a, rfl⟩)
    rw [passes, Option.none_or]
    exact (rest a).error_iff e

/-- `bind` where the first step makes one check. -/
theorem cons {f : α → Except Error β} (first : FailsAs policy [check] x)
    (rest : ∀ a, FailsAs policy more (f a)) : FailsAs policy (check :: more) (x >>= f) :=
  first.bind rest

theorem map {f : α → β} (fails : FailsAs policy checks x) :
    FailsAs policy checks (x >>= fun a => pure (f a)) := by
  have mapped := fails.bind fun a => ok (f a)
  rwa [List.append_nil] at mapped

theorem mapM {f : α → Except Error β} {checks : α → List Check}
    (each : ∀ a, FailsAs policy (checks a) (f a)) (as : List α) :
    FailsAs policy (as.flatMap checks) (as.mapM f) := by
  induction as with
  | nil => exact ok []
  | cons a as ih =>
    rw [List.mapM_cons, List.flatMap_cons]
    exact (each a).bind fun _ => ih.map

theorem optionMapM {f : α → Except Error β} {check : α → Check}
    (each : ∀ a, FailsAs policy [check a] (f a)) (a? : Option α) :
    FailsAs policy (a?.toList.map check) (a?.mapM f) := by
  cases a? with
  | none => exact ok none
  | some a =>
    rw [Option.mapM_some, map_eq_pure_bind]
    exact (each a).map

theorem column (bits : Nat) (field : String) (n : Nat) :
    FailsAs policy [.column bits field n] (BlockIndexer.column bits field n) := by
  refine ⟨fun e => ?_⟩
  simp only [BlockIndexer.column, Check.firstError?, List.findSome?_cons, Check.error?]
  split <;> simp

theorem render (field : String) (q : Quantity) :
    FailsAs policy [.quantity field q] (q.render policy field) := by
  refine ⟨fun e => ?_⟩
  simp only [Quantity.render, Quantity.decimal?, Check.firstError?, List.findSome?_cons,
    Check.error?]
  cases q.value? <;> cases policy <;> simp

end FailsAs

/-- The quantities of a transaction with their fields, in the order in which they are rendered. -/
def Transaction.quantities (t : Transaction) : List (String × Quantity) :=
  [("transaction.nonce", t.nonce), ("transaction.gas_price", t.gasPrice),
    ("transaction.gas_limit", t.gasLimit), ("transaction.value", t.value), ("transaction.r", t.r),
    ("transaction.s", t.s), ("transaction.max_fee_per_gas", t.maxFeePerGas),
    ("transaction.max_priority_fee_per_gas", t.maxPriorityFeePerGas)]

def Block.ownQuantities (b : Block) : List (String × Quantity) :=
  [("block.size", b.size), ("block.gas_limit", b.gasLimit), ("block.gas_used", b.gasUsed)]

/-- The quantities of a block and its transactions, in the order in which they are rendered. -/
def Block.quantities (b : Block) : List (String × Quantity) :=
  b.ownQuantities ++ b.transactions.flatMap Transaction.quantities

/-- The checks of a transaction in a block of the given height, in the order in which they are
made. -/
def Transaction.checks (height : Nat) (t : Transaction) : List Check :=
  [.column 63 "transaction.block" height, .column 31 "transaction.index" t.index.toNat] ++
    t.quantities.map .ofQuantity ++
    (List.range t.logs.length).map (.column 31 "event.index")

/-- The checks of a block, in the order in which they are made. -/
def Block.checks (b : Block) : List Check :=
  [.column 63 "block.chain" b.chainId.toNat, .column 63 "block.id" b.height.toNat] ++
    b.ownQuantities.map .ofQuantity ++
    b.sequence.toList.map (.column 63 "block.sequence") ++
    b.transactions.flatMap (Transaction.checks b.height.toNat)

variable {policy : NumericPolicy}

theorem failsAs_logRows (index : Nat) (logs : List Log) :
    FailsAs policy ((List.range' index logs.length).map (.column 31 "event.index"))
      (logRows index logs) := by
  induction logs generalizing index with
  | nil => exact .ok []
  | cons log logs ih =>
    have row : FailsAs policy [.column 31 "event.index" index] (log.toRow index) :=
      (FailsAs.column ..).map
    exact row.cons fun _ => (ih (index + 1)).map

namespace Transaction

theorem failsAs_toRow (height : Nat) (t : Transaction) :
    FailsAs policy ([.column 63 "transaction.block" height,
        .column 31 "transaction.index" t.index.toNat] ++ t.quantities.map .ofQuantity)
      (t.toRow policy height) := by
  refine .cons (.column ..) fun _ => .cons (.column ..) fun _ => ?_
  refine .cons (.render ..) fun _ => .cons (.render ..) fun _ => .cons (.render ..) fun _ => ?_
  refine .cons (.render ..) fun _ => .cons (.render ..) fun _ => .cons (.render ..) fun _ => ?_
  exact .cons (.render ..) fun _ => (FailsAs.render ..).map

theorem failsAs_toRows (height : Nat) (t : Transaction) :
    FailsAs policy (t.checks height) (t.toRows policy height) := by
  rw [checks, List.range_eq_range']
  exact (t.failsAs_toRow height).bind fun _ => (failsAs_logRows 0 t.logs).map

end Transaction

namespace Block

theorem failsAs_toRow (b : Block) :
    FailsAs policy ([.column 63 "block.chain" b.chainId.toNat,
        .column 63 "block.id" b.height.toNat] ++ b.ownQuantities.map .ofQuantity ++
        b.sequence.toList.map (.column 63 "block.sequence"))
      (b.toRow policy) := by
  refine .cons (.column ..) fun _ => .cons (.column ..) fun _ => ?_
  refine .cons (.render ..) fun _ => .cons (.render ..) fun _ => .cons (.render ..) fun _ => ?_
  exact (FailsAs.optionMapM (.column 63 "block.sequence") b.sequence).map

/-- A block cannot be mapped if one of its checks fails, and the first of those gives the error. -/
theorem failsAs_toRows (b : Block) : FailsAs policy b.checks (b.toRows policy) :=
  b.failsAs_toRow.bind fun _ => (FailsAs.mapM (Transaction.failsAs_toRows _) b.transactions).map

end Block

end BlockIndexer
