import BlockIndexer.Proofs.Dispatch
import BlockIndexer.Proofs.Store.WriteOnce
import BlockIndexer.Replay

/-! What a delivery leaves in a store without planted failures. A delivery that has been taken once
is settled: it was undecodable, or does not map, or its height is stored. A settled delivery stays
settled, and taking it again changes nothing. The sequences in the store are those of deliveries
that were taken, so that a run resumes among deliveries that were. -/

namespace BlockIndexer

namespace Store

/-- The store after a delivery. -/
def deliver (s : Store) (d : Delivery) : Store :=
  match Block.ofBytes? d.payload with
  | none => s
  | some b => (s.insert (b.withSequence d.sequence)).2

def deliverAll (s : Store) (ds : List Delivery) : Store := ds.foldl deliver s

/-- The sequences of the stored blocks. -/
def sequences (s : Store) : List Nat := s.tables.blocks.filterMap (·.2.sequence)

/-- Where a run resumes: one past the greatest sequence, or at `start`. -/
def resumePoint (s : Store) (start : Nat) : Nat := s.maxSequence?.elim start (· + 1)

/-- Whether the store holds all that a delivery can bring. -/
def Settled (s : Store) (d : Delivery) : Prop :=
  ∀ b rows, Block.ofBytes? d.payload = some b →
    (b.withSequence d.sequence).toRows s.policy = .ok rows → s.contains rows.height = true

variable {s s' : Store} {d e : Delivery} {ds : List Delivery} {start n : Nat}

theorem deliverAll_append (s : Store) (ds es : List Delivery) :
    s.deliverAll (ds ++ es) = (s.deliverAll ds).deliverAll es :=
  List.foldl_append

theorem deliver_cases (s : Store) (d : Delivery) :
    s.deliver d = s ∨ ∃ b, Block.ofBytes? d.payload = some b ∧
      s.deliver d = (s.insert (b.withSequence d.sequence)).2 := by
  unfold deliver
  cases h : Block.ofBytes? d.payload with
  | none => exact .inl rfl
  | some b => exact .inr ⟨b, rfl, rfl⟩

@[simp] theorem policy_deliver (s : Store) (d : Delivery) : (s.deliver d).policy = s.policy := by
  rcases s.deliver_cases d with h | ⟨b, -, h⟩
  · rw [h]
  · rw [h, policy_insert]

theorem failures_deliver (clean : s.failures = []) (d : Delivery) :
    (s.deliver d).failures = [] := by
  rcases s.deliver_cases d with h | ⟨b, -, h⟩
  · rwa [h]
  · rw [h]
    exact failures_insert clean _

/-! ### Settled deliveries -/

theorem Settled.deliver_eq (settled : s.Settled d) : s.deliver d = s := by
  unfold deliver
  split
  · rfl
  next b decoded =>
    cases h : (b.withSequence d.sequence).toRows s.policy with
    | error e => rw [insert_unmapped h]
    | ok rows => rw [insert_repeated h (settled b rows decoded h)]

theorem settled_of_undecodable (h : Block.ofBytes? d.payload = none) : s.Settled d :=
  fun _ _ decoded _ => by rw [h] at decoded; contradiction

theorem settled_deliver (clean : s.failures = []) (d : Delivery) : (s.deliver d).Settled d := by
  intro b rows decoded mapped
  rw [policy_deliver] at mapped
  have eq : s.deliver d = (s.insert (b.withSequence d.sequence)).2 := by
    simp only [deliver, decoded]
  rw [eq]
  rcases insert_cases_of_clean clean (b.withSequence d.sequence) with ⟨e, h⟩ | ⟨rows', h, hs⟩ |
    ⟨rows', h, hs, hp⟩
  · rw [h] at mapped
    contradiction
  · cases h.symm.trans mapped
    rw [insert_repeated h hs]
    exact hs
  · cases h.symm.trans mapped
    rw [insert_written h hs hp]
    exact (s.tables.contains_addRows rows rows.height).mpr (.inl rfl)

theorem Settled.deliver (settled : s.Settled d) (e : Delivery) : (s.deliver e).Settled d := by
  intro b rows decoded mapped
  rw [policy_deliver] at mapped
  have stored := settled b rows decoded mapped
  rcases s.deliver_cases e with h | ⟨b', -, h⟩
  · rwa [h]
  · rw [h]
    exact contains_insert_of_contains stored _

theorem Settled.deliverAll (settled : s.Settled d) (ds : List Delivery) :
    (s.deliverAll ds).Settled d := by
  induction ds generalizing s with
  | nil => exact settled
  | cons e ds ih => exact ih (settled.deliver e)

/-- A delivery that has been taken is settled from then on. -/
theorem settled_deliverAll (clean : s.failures = []) (h : d ∈ ds) :
    (s.deliverAll ds).Settled d := by
  induction ds generalizing s with
  | nil => exact absurd h List.not_mem_nil
  | cons e ds ih =>
    rcases List.mem_cons.mp h with rfl | h
    · exact (settled_deliver clean d).deliverAll ds
    · exact ih (failures_deliver clean e) h

theorem deliverAll_of_settled (settled : ∀ d ∈ ds, s.Settled d) : s.deliverAll ds = s := by
  induction ds with
  | nil => rfl
  | cons d ds ih =>
    show (s.deliver d).deliverAll ds = s
    rw [(settled d List.mem_cons_self).deliver_eq]
    exact ih fun e he => settled e (List.mem_cons_of_mem _ he)

/-! ### Stored sequences -/

/-- A delivery leaves the tables alone, or adds the rows of a block under its own sequence. -/
theorem tables_deliver (s : Store) (d : Delivery) :
    (s.deliver d).tables = s.tables ∨
      ∃ rows, rows.block.sequence = some d.sequence ∧
        (s.deliver d).tables = (s.tables.addRows rows).1 := by
  rcases s.deliver_cases d with eq | ⟨b, -, eq⟩
  · exact .inl (by rw [eq])
  · rw [eq]
    rcases s.tables_insert (b.withSequence d.sequence) with same | ⟨rows, mapped, -, inserted⟩
    · exact .inl same
    · exact .inr ⟨rows, Block.sequence_of_toRows mapped, by rw [inserted]⟩

theorem sequences_congr (same : s'.tables = s.tables) : s'.sequences = s.sequences := by
  rw [sequences, same, sequences]

theorem mem_sequences_of_addRows {rows : BlockRows}
    (eq : s'.tables = (s.tables.addRows rows).1) :
    n ∈ s'.sequences ↔ rows.block.sequence = some n ∨ n ∈ s.sequences := by
  have blocks : s'.tables.blocks =
      Tables.placeBlock rows.height rows.block s.tables.blocks := by
    rw [eq, Tables.blocks_addRows]
  simp only [sequences, blocks, List.mem_filterMap, Tables.mem_placeBlock, or_and_right, exists_or,
    exists_eq_left]

theorem mem_sequences_deliver (h : n ∈ s.sequences) : n ∈ (s.deliver d).sequences := by
  rcases s.tables_deliver d with same | ⟨rows, -, added⟩
  · rwa [sequences_congr same]
  · exact (mem_sequences_of_addRows added).mpr (.inr h)

theorem eq_sequence_of_mem_deliver (h : n ∈ (s.deliver d).sequences) :
    n ∈ s.sequences ∨ n = d.sequence := by
  rcases s.tables_deliver d with same | ⟨rows, sequence, added⟩
  · rw [sequences_congr same] at h
    exact .inl h
  · rcases (mem_sequences_of_addRows added).mp h with new | old
    · rw [sequence] at new
      exact .inr (Option.some.inj new).symm
    · exact .inl old

theorem mem_sequences_deliverAll (ds : List Delivery) (h : n ∈ s.sequences) :
    n ∈ (s.deliverAll ds).sequences := by
  induction ds generalizing s with
  | nil => exact h
  | cons d ds ih => exact ih (mem_sequences_deliver h)

theorem eq_sequence_of_mem_deliverAll (h : n ∈ (s.deliverAll ds).sequences) :
    n ∈ s.sequences ∨ ∃ d ∈ ds, n = d.sequence := by
  induction ds generalizing s with
  | nil => exact .inl h
  | cons d ds ih =>
    rcases ih h with before | ⟨e, he, eq⟩
    · rcases eq_sequence_of_mem_deliver before with old | eq
      · exact .inl old
      · exact .inr ⟨d, List.mem_cons_self, eq⟩
    · exact .inr ⟨e, List.mem_cons_of_mem _ he, eq⟩

/-! ### Where a run resumes -/

theorem resumePoint_congr (same : s'.tables = s.tables) (start : Nat) :
    s'.resumePoint start = s.resumePoint start := by
  rw [resumePoint, maxSequence?, same, resumePoint, maxSequence?]

/-- A run resumes above all sequences that are stored, and no higher than it must. -/
theorem resumePoint_le_iff : s.resumePoint start ≤ n ↔
    (∀ m ∈ s.sequences, m < n) ∧ (s.sequences = [] → start ≤ n) := by
  cases greatest : s.maxSequence? with
  | none =>
    have nil : s.sequences = [] := List.max?_eq_none_iff.mp greatest
    simp [resumePoint, greatest, nil]
  | some m =>
    obtain ⟨stored, le⟩ := List.max?_eq_some_iff.mp greatest
    rw [resumePoint, greatest, Option.elim_some]
    constructor
    · intro lt
      refine ⟨fun k hk => Nat.lt_of_le_of_lt (le k hk) lt, fun nil => ?_⟩
      exact absurd nil (List.ne_nil_of_mem stored)
    · intro all
      exact all.1 m stored

theorem lt_resumePoint (stored : n ∈ s.sequences) (start : Nat) : n < s.resumePoint start :=
  (resumePoint_le_iff.mp (Nat.le_refl _)).1 n stored

/-- After deliveries, a run resumes where it would have before, or just after one of them. -/
theorem resumePoint_deliverAll (s : Store) (start : Nat) (ds : List Delivery) :
    (s.deliverAll ds).resumePoint start = s.resumePoint start ∨
      ∃ d ∈ ds, (s.deliverAll ds).resumePoint start = d.sequence + 1 := by
  cases h : (s.deliverAll ds).maxSequence? with
  | none =>
    have none : s.maxSequence? = none := by
      rw [maxSequence?, List.max?_eq_none_iff] at h ⊢
      refine List.eq_nil_iff_forall_not_mem.mpr fun n hn => ?_
      have later : n ∈ (s.deliverAll ds).sequences := mem_sequences_deliverAll ds hn
      rw [sequences, h] at later
      exact List.not_mem_nil later
    exact .inl (by rw [resumePoint, resumePoint, h, none])
  | some m =>
    have greatest := List.max?_eq_some_iff.mp h
    rcases eq_sequence_of_mem_deliverAll greatest.1 with old | ⟨d, hd, rfl⟩
    · have same : s.maxSequence? = some m :=
        List.max?_eq_some_iff.mpr
          ⟨old, fun n hn => greatest.2 n (mem_sequences_deliverAll ds hn)⟩
      exact .inl (by rw [resumePoint, resumePoint, h, same])
    · exact .inr ⟨d, hd, by rw [resumePoint, h]; rfl⟩

end Store

end BlockIndexer
