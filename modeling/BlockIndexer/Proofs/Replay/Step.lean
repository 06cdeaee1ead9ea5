import BlockIndexer.Proofs.Replay.Deliver

/-! A replay one delivery at a time. A run takes some of its deliveries one after the other, and a
delivery adds the rows of its block to the store, under the delivery's own sequence, or leaves the
tables alone. The least sequence that is not passed over never falls. -/

namespace BlockIndexer

/-- The height of a block that was written. -/
def DispatchEvent.indexedHeight? : DispatchEvent → Option Nat
  | .indexed height _ => some height
  | .alreadyIndexed _ | .dropped _ _ | .undecodable _ => none

/-- A delivery leaves the tables alone, or adds the rows of its block under its own sequence. -/
theorem Database.deliver_cases {db : Database} (c : db.store.tables.Consistent) (d : Delivery) :
    ((db.deliver d).1.indexedHeight? = none ∧
      (db.deliver d).2.store.tables = db.store.tables) ∨
    ∃ b rows, Block.ofBytes? d.payload = some b ∧
      (b.withSequence d.sequence).toRows db.store.policy = .ok rows ∧
      db.store.contains rows.height = false ∧
      (db.deliver d).1 = .indexed rows.height rows.outcome ∧
      (db.deliver d).2.store.tables = (db.store.tables.addRows rows).1 := by
  cases decoded : Block.ofBytes? d.payload with
  | none =>
    have delivered : db.deliver d = (.undecodable d.sequence, db) := by
      simp only [deliver, decoded]
    rw [delivered]
    exact .inl ⟨rfl, rfl⟩
  | some b =>
    have delivered : db.deliver d = db.store? b.height.toNat (b.withSequence d.sequence) := by
      simp only [deliver, decoded]
    rw [delivered]
    rcases db.store?_cases c b.height.toNat (b.withSequence d.sequence) with
      ⟨tables, event⟩ | ⟨rows, mapped, absent, event, tables⟩
    · refine .inl ⟨?_, tables⟩
      rcases event with ⟨event, -⟩ | ⟨cause, event⟩
      · rw [event]
        rfl
      · rw [event]
        rfl
    · refine .inr ⟨b, rows, rfl, mapped, absent, ?_, tables⟩
      rw [event, Block.height_of_toRows mapped]
      rfl

namespace Replay

variable {r : Replay} {d : Delivery} {ds : List Delivery}

/-- The least sequence that is not passed over as committed. -/
def floor (r : Replay) : Nat := r.committed.elim 0 (· + 1)

theorem isCommitted_eq_false_iff : r.isCommitted d = false ↔ r.floor ≤ d.sequence := by
  unfold isCommitted floor
  cases r.committed with
  | none => simp
  | some n =>
    simp only [Option.any_some, decide_eq_false_iff_not, Option.elim_some]
    omega

theorem floor_start (db : Database) (receiver : Receiver) (n : Nat) :
    (start db receiver n).floor = n := by
  unfold floor start
  by_cases zero : n = 0
  · simp [zero]
  · simp only [if_neg zero, Option.elim_some]
    omega

/-- The run after one more delivery. A receiver that is gone takes no event. -/
def next (r : Replay) (d : Delivery) : Replay :=
  if r.isCommitted d then { r with report := r.report.skip }
  else
    let (event, db) := r.db.deliver d
    { db
      report := r.report.count d.sequence event
      committed := committedAfter r.committed d.sequence event
      receiver := r.receiver.send?.getD r.receiver
      events := if r.receiver.send?.isSome then r.events ++ [event] else r.events }

theorem run_eq_foldl (r : Replay) (ds : List Delivery) :
    ∃ n, r.run ds = (ds.take n).foldl next r := by
  induction ds generalizing r with
  | nil => exact ⟨0, rfl⟩
  | cons d ds ih =>
    rw [run]
    by_cases passed : r.isCommitted d = true
    · obtain ⟨n, rest⟩ := ih { r with report := r.report.skip }
      refine ⟨n + 1, ?_⟩
      rw [if_pos passed, List.take_succ_cons, List.foldl_cons, next, if_pos passed, rest]
    · rw [if_neg passed]
      cases sent : r.receiver.send? with
      | none =>
        -- The delivery that finds the receiver gone is taken, and is the last one.
        refine ⟨1, ?_⟩
        rw [List.take_succ_cons, List.take_zero, List.foldl_cons, List.foldl_nil, next,
          if_neg passed, sent]
        rfl
      | some receiver =>
        obtain ⟨n, rest⟩ := ih ⟨(r.db.deliver d).2, r.report.count d.sequence (r.db.deliver d).1,
          committedAfter r.committed d.sequence (r.db.deliver d).1, receiver,
          r.events ++ [(r.db.deliver d).1]⟩
        refine ⟨n + 1, ?_⟩
        rw [List.take_succ_cons, List.foldl_cons, next, if_neg passed, sent]
        exact rest

@[simp] theorem resumedAt_next (r : Replay) (d : Delivery) :
    (r.next d).report.resumedAt = r.report.resumedAt := by
  unfold next
  split
  · rfl
  · dsimp only [ReplayReport.count]
    split <;> rfl

theorem next_of_committed (passed : r.isCommitted d = true) :
    r.next d = { r with report := r.report.skip } :=
  if_pos passed

theorem db_next (fresh : r.isCommitted d = false) : (r.next d).db = (r.db.deliver d).2 := by
  rw [next, if_neg (Bool.eq_false_iff.mp fresh)]

theorem floor_next (fresh : r.isCommitted d = false) : (r.next d).floor =
    if (r.db.deliver d).1.storedHeight?.isSome then d.sequence + 1 else r.floor := by
  rw [next, if_neg (Bool.eq_false_iff.mp fresh)]
  simp only [floor, committedAfter]
  split <;> rfl

/-- The height under which a delivery is stored, if it is stored. -/
def stores? (r : Replay) (d : Delivery) : Option Nat :=
  if r.isCommitted d then none else (r.db.deliver d).1.indexedHeight?

theorem stores?_of_fresh (fresh : r.isCommitted d = false) :
    r.stores? d = (r.db.deliver d).1.indexedHeight? :=
  if_neg (Bool.eq_false_iff.mp fresh)

/-- A delivery leaves the tables alone, or it is above all that was committed, and adds the rows of
its block under its own sequence. -/
theorem next_cases (c : r.db.store.tables.Consistent) (d : Delivery) :
    (r.stores? d = none ∧ (r.next d).db.store.tables = r.db.store.tables ∧
      r.floor ≤ (r.next d).floor) ∨
    ∃ b rows, Block.ofBytes? d.payload = some b ∧
      (b.withSequence d.sequence).toRows r.db.store.policy = .ok rows ∧
      r.stores? d = some rows.height ∧ r.floor ≤ d.sequence ∧
      r.db.store.contains rows.height = false ∧
      (r.next d).db.store.tables = (r.db.store.tables.addRows rows).1 ∧
      (r.next d).floor = d.sequence + 1 := by
  cases passed : r.isCommitted d with
  | true =>
    rw [next_of_committed passed]
    exact .inl ⟨if_pos passed, rfl, Nat.le_refl _⟩
  | false =>
    have fresh := isCommitted_eq_false_iff.mp passed
    rw [stores?_of_fresh passed, db_next passed, floor_next passed]
    rcases r.db.deliver_cases c d with ⟨event, tables⟩ |
      ⟨b, rows, decoded, mapped, absent, event, tables⟩
    · refine .inl ⟨event, tables, ?_⟩
      split <;> omega
    · rw [event]
      exact .inr ⟨b, rows, decoded, mapped, rfl, fresh, absent, tables, rfl⟩

end Replay

end BlockIndexer
