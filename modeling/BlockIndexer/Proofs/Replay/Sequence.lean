import BlockIndexer.Json.Printer
import BlockIndexer.Proofs.Replay.Step

/-! Replays into one store, one after the other, of any logs and with any failures. A run has two
cursors, the sequence up to which it takes deliveries for committed, and the greatest sequence in
the store, from which the next run resumes. The first is never behind the second, so that what a run
stores comes under a sequence greater than all that are stored. -/

namespace BlockIndexer

/-- A block that a run has stored. -/
structure Commit where
  /-- Where the run resumed. -/
  resumedAt : Nat
  delivery : Delivery
  height : Nat
  /-- The store before the block was there. -/
  before : Store

/-- Runs over one store, the last of which is under way. -/
structure Replays where
  replay : Replay
  /-- Where the runs resumed, the first one first. -/
  resumed : List Nat
  /-- What the runs have stored, the first one first. -/
  commits : List Commit

namespace Replays

inductive Action where
  /-- The run ends, or is cut short, and another one begins. -/
  | resume (receiver : Receiver)
  | deliver (d : Delivery)
  | plantFailure (height position : Nat)
  | refuse (query : Query) (reason : Option String)

def begin (s : Store) (start : Nat) (receiver : Receiver) : Replays :=
  ⟨.start (.ofStore s) receiver (s.resumePoint start), [s.resumePoint start], []⟩

def store (t : Replays) : Store := t.replay.db.store

def setDatabase (t : Replays) (db : Database) : Replays :=
  { t with replay := { t.replay with db } }

/-- The run under way takes a delivery. -/
def deliver (t : Replays) (d : Delivery) : Replays :=
  { t with
    replay := t.replay.next d
    commits := t.commits ++ ((t.replay.stores? d).map fun height =>
      ⟨t.replay.report.resumedAt, d, height, t.store⟩).toList }

/-- The runs after a step, unless the store refuses to say where to resume. -/
def act? (start : Nat) (t : Replays) : Action → Option Replays
  | .resume receiver =>
    match t.replay.db.resumePoint start with
    | .error _ => none
    | .ok n => some { t with replay := .start t.replay.db receiver n, resumed := t.resumed ++ [n] }
  | .deliver d => some (t.deliver d)
  | .plantFailure height position =>
    let db := t.replay.db
    some (t.setDatabase { db with store := db.store.plantFailure height position })
  | .refuse query reason => some (t.setDatabase (t.replay.db.refuse query reason))

/-- What runs come to that begin with a store, by steps in any order and number. -/
inductive Reachable (s : Store) (start : Nat) : Replays → Prop where
  | begin (receiver : Receiver) : Reachable s start (begin s start receiver)
  | next {t t' : Replays} {action : Action} : Reachable s start t →
      t.act? start action = some t' → Reachable s start t'

end Replays

/-- A commit stored the block of its delivery, which was missing, under a sequence that the run had
not passed and that is greater than all that were stored. The block is still there. -/
structure Commit.Sound (c : Commit) (now : Store) : Prop where
  decoded : ∃ b, Block.ofBytes? c.delivery.payload = some b ∧ b.height.toNat = c.height
  missing : c.before.contains c.height = false
  resumed : c.resumedAt ≤ c.delivery.sequence
  above : ∀ n ∈ c.before.sequences, n < c.delivery.sequence
  stored : ∃ row, now.block? c.height = some row ∧ row.sequence = some c.delivery.sequence

theorem Commit.Sound.contains {c : Commit} {now : Store} (sound : c.Sound now) :
    now.contains c.height = true := by
  obtain ⟨row, stored, -⟩ := sound.stored
  exact Option.isSome_iff_exists.mpr ⟨row, stored⟩

namespace Replays

variable {s : Store} {start : Nat} {t t' : Replays} {d : Delivery}

/-- What holds between two steps: the run has passed every sequence that is stored. -/
structure Rising (s : Store) (start : Nat) (t : Replays) : Prop where
  consistent : t.store.tables.Consistent
  stored_lt : ∀ n ∈ t.store.sequences, n < t.replay.floor
  resumedAt_le_floor : t.replay.report.resumedAt ≤ t.replay.floor
  resumedAt_le_resumePoint : t.replay.report.resumedAt ≤ t.store.resumePoint start
  resumed : t.resumed.Pairwise (· ≤ ·)
  resumed_le : ∀ n ∈ t.resumed, n ≤ t.replay.report.resumedAt
  sound : ∀ c ∈ t.commits, c.Sound t.store
  commits : t.commits.Pairwise (·.delivery.sequence < ·.delivery.sequence)
  kept : ∀ h row, s.block? h = some row → t.store.block? h = some row
  rows : ∀ h row, t.store.block? h = some row →
    s.block? h = some row ∨ ∃ c ∈ t.commits, c.height = h

theorem rising_begin (c : s.tables.Consistent) (start : Nat) (receiver : Receiver) :
    Rising s start (begin s start receiver) where
  consistent := c
  stored_lt n stored := by
    rw [begin, Replay.floor_start]
    exact Store.lt_resumePoint stored start
  resumedAt_le_floor := Nat.le_of_eq (Replay.floor_start ..).symm
  resumedAt_le_resumePoint := Nat.le_refl _
  resumed := List.pairwise_singleton ..
  resumed_le n hn := Nat.le_of_eq (List.mem_singleton.mp hn)
  sound _ hc := absurd hc List.not_mem_nil
  commits := .nil
  kept _ _ stored := stored
  rows _ _ stored := .inl stored

namespace Rising

/-- The next run does not resume below where an earlier one did. -/
theorem resumed_le_resumePoint (rising : Rising s start t) {n : Nat} (hn : n ∈ t.resumed) :
    n ≤ t.store.resumePoint start := by
  have earlier := rising.resumed_le n hn
  have current := rising.resumedAt_le_resumePoint
  omega

theorem resumed_append (rising : Rising s start t) :
    (t.resumed ++ [t.store.resumePoint start]).Pairwise (· ≤ ·) := by
  refine List.pairwise_append.mpr ⟨rising.resumed, List.pairwise_singleton .., ?_⟩
  intro n hn m hm
  rw [List.mem_singleton.mp hm]
  exact rising.resumed_le_resumePoint hn

theorem sequences_kept (rising : Rising s start t) (c : s.tables.Consistent) {n : Nat}
    (stored : n ∈ s.sequences) : n ∈ t.store.sequences := by
  obtain ⟨h, row, before, sequence⟩ := (Store.mem_sequences c).mp stored
  have now : t.store.block? h = some row := rising.kept h row before
  exact (Store.mem_sequences rising.consistent).mpr ⟨h, row, now, sequence⟩

theorem mem_sequences (rising : Rising s start t) (c : s.tables.Consistent) {n : Nat}
    (stored : n ∈ t.store.sequences) :
    n ∈ s.sequences ∨ ∃ commit ∈ t.commits, commit.delivery.sequence = n := by
  obtain ⟨h, row, now, sequence⟩ := (Store.mem_sequences rising.consistent).mp stored
  rcases rising.rows h row now with before | ⟨commit, hcommit, rfl⟩
  · exact .inl ((Store.mem_sequences c).mpr ⟨h, row, before, sequence⟩)
  · obtain ⟨row', now', sequence'⟩ := (rising.sound commit hcommit).stored
    obtain rfl := Option.some.inj (now.symm.trans now')
    exact .inr ⟨commit, hcommit, Option.some.inj (sequence'.symm.trans sequence)⟩

theorem frame (rising : Rising s start t) (tables : t'.store.tables = t.store.tables)
    (floor : t.replay.floor ≤ t'.replay.floor)
    (resumedAt : t'.replay.report.resumedAt = t.replay.report.resumedAt)
    (resumed : t'.resumed = t.resumed) (commits : t'.commits = t.commits) :
    Rising s start t' := by
  have blocks (h : Nat) : t'.store.block? h = t.store.block? h := by
    rw [Store.block?, tables, Store.block?]
  constructor
  · exact tables ▸ rising.consistent
  · intro n stored
    rw [Store.sequences_congr tables] at stored
    exact Nat.lt_of_lt_of_le (rising.stored_lt n stored) floor
  · exact resumedAt ▸ Nat.le_trans rising.resumedAt_le_floor floor
  · rw [resumedAt, Store.resumePoint_congr tables]
    exact rising.resumedAt_le_resumePoint
  · exact resumed ▸ rising.resumed
  · rw [resumed, resumedAt]
    exact rising.resumed_le
  · intro c hc
    have sound := rising.sound c (commits ▸ hc)
    exact { sound with stored := blocks c.height ▸ sound.stored }
  · exact commits ▸ rising.commits
  · exact fun h row stored => blocks h ▸ rising.kept h row stored
  · intro h row stored
    rw [commits]
    exact rising.rows h row (blocks h ▸ stored)

/-- The next run resumes above all that is stored, and not below the runs before it. -/
theorem resume (rising : Rising s start t) (receiver : Receiver) {n : Nat}
    (asked : t.replay.db.resumePoint start = .ok n) :
    n = t.store.resumePoint start ∧
      Rising s start { t with
        replay := .start t.replay.db receiver n, resumed := t.resumed ++ [n] } := by
  have eq : n = t.store.resumePoint start := by
    unfold Database.resumePoint Database.maxSequence? Database.ask at asked
    cases refused : t.replay.db.refusals.lookup .maxSequence with
    | some reason =>
      rw [refused] at asked
      contradiction
    | none =>
      rw [refused] at asked
      exact (Except.ok.inj asked).symm
  subst eq
  refine ⟨rfl, { rising with
    stored_lt := fun n stored => ?_
    resumedAt_le_floor := Nat.le_of_eq (Replay.floor_start ..).symm
    resumedAt_le_resumePoint := Nat.le_refl _
    resumed := rising.resumed_append
    resumed_le := fun n hn => ?_ }⟩
  · rw [Replay.floor_start]
    exact Store.lt_resumePoint stored start
  · rcases List.mem_append.mp hn with old | new
    · exact rising.resumed_le_resumePoint old
    · exact Nat.le_of_eq (List.mem_singleton.mp new)

theorem sequence_lt_floor (rising : Rising s start t) {c : Commit} (hc : c ∈ t.commits) :
    c.delivery.sequence < t.replay.floor := by
  obtain ⟨row, stored, sequence⟩ := (rising.sound c hc).stored
  exact rising.stored_lt _ ((Store.mem_sequences rising.consistent).mpr ⟨_, row, stored, sequence⟩)

theorem commit (rising : Rising s start t) {rows : BlockRows} {b : Block}
    (decoded : Block.ofBytes? d.payload = some b)
    (mapped : (b.withSequence d.sequence).toRows t.store.policy = .ok rows)
    (fresh : t.replay.floor ≤ d.sequence) (absent : t.store.contains rows.height = false)
    (tables : (t.replay.next d).db.store.tables = (t.store.tables.addRows rows).1)
    (floor : (t.replay.next d).floor = d.sequence + 1) :
    Rising s start { t with
      replay := t.replay.next d
      commits := t.commits ++ [⟨t.replay.report.resumedAt, d, rows.height, t.store⟩] } := by
  have sequence : rows.block.sequence = some d.sequence := Block.sequence_of_toRows mapped
  have height : rows.height = (b.withSequence d.sequence).height.toNat :=
    Block.height_of_toRows mapped
  have sequences (n : Nat) : n ∈ (t.replay.next d).db.store.sequences ↔
      n = d.sequence ∨ n ∈ t.store.sequences := by
    rw [Store.mem_sequences_of_addRows tables, sequence, Option.some_inj, eq_comm]
  have blocks (h : Nat) : (t.replay.next d).db.store.block? h =
      if h = rows.height then some rows.block else t.store.block? h := by
    rw [Store.block?, tables, Tables.block?_addRows absent, Store.block?]
  have kept (h : Nat) (row : BlockRow) (stored : t.store.block? h = some row) :
      (t.replay.next d).db.store.block? h = some row := by
    rw [Store.block?, tables]
    exact Tables.block?_addRows_of_some absent stored
  -- The run has passed all that is stored, and it has not passed this delivery.
  have below (n : Nat) (stored : n ∈ t.store.sequences) : n < d.sequence := by
    have := rising.stored_lt n stored
    omega
  have resumedAt_le : t.replay.report.resumedAt ≤ d.sequence := by
    have := rising.resumedAt_le_floor
    omega
  constructor
  · exact tables ▸ rising.consistent.addRows (Block.wellFormed_of_toRows mapped) absent
  · intro n stored
    rw [floor]
    rcases (sequences n).mp stored with rfl | old
    · omega
    · have := below n old
      omega
  · rw [floor, Replay.resumedAt_next]
    omega
  · rw [Replay.resumedAt_next]
    have : d.sequence < (t.replay.next d).db.store.resumePoint start :=
      Store.lt_resumePoint ((sequences d.sequence).mpr (.inl rfl)) start
    show t.replay.report.resumedAt ≤ (t.replay.next d).db.store.resumePoint start
    omega
  · exact rising.resumed
  · rw [Replay.resumedAt_next]
    exact rising.resumed_le
  · intro c hc
    rcases List.mem_append.mp hc with old | new
    · obtain ⟨row, stored, eq⟩ := (rising.sound c old).stored
      exact { rising.sound c old with
        stored := ⟨row, kept c.height row stored, eq⟩ }
    · cases List.mem_singleton.mp new
      exact {
        decoded := ⟨b, decoded, height.symm⟩
        missing := absent
        resumed := resumedAt_le
        above := below
        stored := ⟨rows.block, (blocks rows.height).trans (if_pos rfl), sequence⟩ }
  · refine List.pairwise_append.mpr ⟨rising.commits, List.pairwise_singleton .., ?_⟩
    intro c hc c' hc'
    rw [List.mem_singleton.mp hc']
    have : c.delivery.sequence < t.replay.floor := rising.sequence_lt_floor hc
    show c.delivery.sequence < d.sequence
    omega
  · exact fun h row stored => kept h row (rising.kept h row stored)
  · intro h row stored
    rw [store, blocks] at stored
    split at stored
    next eq => exact .inr ⟨_, List.mem_append_right _ (List.mem_singleton.mpr rfl), eq.symm⟩
    next =>
      rcases rising.rows h row stored with old | ⟨c, hc, eq⟩
      · exact .inl old
      · exact .inr ⟨c, List.mem_append_left _ hc, eq⟩

theorem deliver (rising : Rising s start t) (d : Delivery) : Rising s start (t.deliver d) := by
  rcases t.replay.next_cases rising.consistent d with ⟨none, tables, floor⟩ |
    ⟨b, rows, decoded, mapped, stores, fresh, absent, tables, floor⟩
  · refine rising.frame tables floor (t.replay.resumedAt_next d) rfl ?_
    simp only [Replays.deliver, none, Option.map_none, Option.toList_none, List.append_nil]
  · rw [Replays.deliver, stores]
    exact rising.commit decoded mapped fresh absent tables floor

theorem act (rising : Rising s start t) {action : Action}
    (step : t.act? start action = some t') : Rising s start t' := by
  cases action with
  | resume receiver =>
    unfold act? at step
    cases asked : t.replay.db.resumePoint start with
    | error e =>
      rw [asked] at step
      contradiction
    | ok n =>
      rw [asked] at step
      obtain rfl := Option.some.inj step
      exact (rising.resume receiver asked).2
  | deliver d =>
    obtain rfl := Option.some.inj step
    exact rising.deliver d
  | plantFailure height position =>
    obtain rfl := Option.some.inj step
    exact rising.frame rfl (Nat.le_refl _) rfl rfl rfl
  | refuse query reason =>
    obtain rfl := Option.some.inj step
    exact rising.frame rfl (Nat.le_refl _) rfl rfl rfl

end Rising

theorem Reachable.rising (c : s.tables.Consistent) (reached : Reachable s start t) :
    Rising s start t := by
  induction reached with
  | begin receiver => exact rising_begin c start receiver
  | next _ step ih => exact ih.act step

/-! ### Runs -/

theorem Reachable.deliver (reached : Reachable s start t) (d : Delivery) :
    Reachable s start (t.deliver d) :=
  reached.next (show t.act? start (.deliver d) = some (t.deliver d) from rfl)

theorem Reachable.deliverAll (reached : Reachable s start t) (ds : List Delivery) :
    ∃ t', Reachable s start t' ∧ t'.replay = ds.foldl Replay.next t.replay ∧
      t'.replay.report.resumedAt = t.replay.report.resumedAt ∧ t'.resumed = t.resumed ∧
      ∀ c ∈ t'.commits, c ∈ t.commits ∨ c.delivery ∈ ds := by
  -- The induction starts from any point of the runs, since the first delivery moves it.
  induction ds generalizing t with
  | nil => exact ⟨t, reached, rfl, rfl, rfl, fun c hc => .inl hc⟩
  | cons d ds ih =>
    obtain ⟨t', reached', replay, resumedAt, resumed, commits⟩ :=
      ih (reached.deliver d)
    refine ⟨t', reached', replay, resumedAt.trans (t.replay.resumedAt_next d), resumed, ?_⟩
    intro c hc
    rcases commits c hc with before | later
    · rcases List.mem_append.mp before with before | now
      · exact .inl before
      · obtain ⟨height, -, rfl⟩ := Option.map_eq_some_iff.mp (Option.mem_toList.mp now)
        exact .inr List.mem_cons_self
    · exact .inr (List.mem_cons_of_mem _ later)

/-- A run is the deliveries that it takes, one step for each. -/
theorem Reachable.run (reached : Reachable s start t) (ds : List Delivery) :
    ∃ t', Reachable s start t' ∧ t'.replay = t.replay.run ds ∧
      t'.replay.report.resumedAt = t.replay.report.resumedAt ∧ t'.resumed = t.resumed ∧
      ∀ c ∈ t'.commits, c ∈ t.commits ∨ c.delivery ∈ ds := by
  obtain ⟨n, taken⟩ := t.replay.run_eq_foldl ds
  obtain ⟨t', reached', replay, resumedAt, resumed, commits⟩ := reached.deliverAll (ds.take n)
  exact ⟨t', reached', replay.trans taken.symm, resumedAt, resumed,
    fun c hc => (commits c hc).imp_right List.mem_of_mem_take⟩

theorem replay_eq_ok {db : Database} {subscribe : Nat → Except Error (List Delivery)}
    {receiver : Receiver} {r : Replay} :
    db.replay subscribe start receiver = .ok r ↔ ∃ n ds, db.resumePoint start = .ok n ∧
      subscribe n = .ok ds ∧ (Replay.start db receiver n).run ds = r := by
  simp only [Database.replay, bind_eq_ok, pure_eq_ok]
  constructor
  · rintro ⟨n, asked, ds, given, ran⟩
    exact ⟨n, ds, asked, given, ran⟩
  · rintro ⟨n, ds, asked, given, ran⟩
    exact ⟨n, asked, ds, given, ran⟩

/-- Whatever runs begin with a store, one after the other, what they store comes under the
sequences of its deliveries, each greater than all that were stored before, and nothing else is
stored. No run resumes below where an earlier one did, and the next one resumes just after the
greatest sequence that is stored, if there is one. -/
theorem sequences_rise (policy : NumericPolicy) (ops : List Operation) (start : Nat) :
    let s := (Store.empty policy).run ops
    (∀ t, Reachable s start t →
      (∀ c ∈ t.commits, c.Sound t.store) ∧
      t.commits.Pairwise (·.delivery.sequence < ·.delivery.sequence) ∧
      (∀ h row, s.block? h = some row → t.store.block? h = some row) ∧
      (∀ h row, t.store.block? h = some row →
        s.block? h = some row ∨ ∃ c ∈ t.commits, c.height = h) ∧
      (t.resumed ++ [t.store.resumePoint start]).Pairwise (· ≤ ·) ∧
      ∀ m, t.store.maxSequence? = some m → t.store.resumePoint start = m + 1 ∧ FitsIn 63 m) ∧
    (∀ subscribe receiver r, (Database.ofStore s).replay subscribe start receiver = .ok r →
      ∃ t, Reachable s start t ∧ t.replay = r ∧ t.resumed = [r.report.resumedAt]) ∧
    ∀ t, Reachable s start t →
      ∀ subscribe receiver r, t.replay.db.replay subscribe start receiver = .ok r →
      ∃ t', Reachable s start t' ∧ t'.replay = r ∧
        t'.resumed = t.resumed ++ [r.report.resumedAt] := by
  intro s
  have c : s.tables.Consistent := Store.consistent_run Tables.consistent_empty ops
  refine ⟨fun t reached => ?_, fun subscribe receiver r ran => ?_,
    fun t reached subscribe receiver r ran => ?_⟩
  · have rising := reached.rising c
    refine ⟨rising.sound, rising.commits, rising.kept, rising.rows, rising.resumed_append,
      fun m greatest => ⟨?_, ?_⟩⟩
    · rw [Store.resumePoint, greatest]
      rfl
    · obtain ⟨h, row, stored, sequence⟩ :=
        ((Store.maxSequence?_eq_some_iff rising.consistent).mp greatest).1
      exact rising.consistent.sequence_fits _ (rising.consistent.block?_eq_some_iff.mp stored) m
        sequence
  · -- A first run is the start of these runs.
    obtain ⟨n, ds, asked, -, rfl⟩ := replay_eq_ok.mp ran
    obtain rfl : s.resumePoint start = n := Except.ok.inj asked
    obtain ⟨t, reached, replay, resumedAt, resumed, -⟩ :=
      (show Reachable s start (begin s start receiver) from .begin receiver).run ds
    refine ⟨t, reached, replay, ?_⟩
    show t.resumed = [((begin s start receiver).replay.run ds).report.resumedAt]
    rw [← replay, resumedAt, resumed]
    rfl
  · -- Any other run is a step that resumes, and then its deliveries.
    obtain ⟨n, ds, asked, -, rfl⟩ := replay_eq_ok.mp ran
    have resume : t.act? start (.resume receiver) = some { t with
        replay := .start t.replay.db receiver n, resumed := t.resumed ++ [n] } := by
      simp only [act?, asked]
    obtain ⟨t', reached', replay, resumedAt, resumed, -⟩ := (reached.next resume).run ds
    refine ⟨t', reached', replay, ?_⟩
    rw [← replay, resumedAt, resumed]
    rfl

/-- The document of a block at a height, all of whose numbers and bytes are zero. -/
def zeroBlock (height : Nat) (transactions : List Json.Value) : List UInt8 :=
  let zeros (n : Nat) : Json.Value := .array (List.replicate n (Json.nat 0))
  let document : Json.Value := .array
    [Json.nat 0, zeros 32, zeros 32, Json.nat height, zeros 20, Json.nat 0, Json.nat 0, Json.nat 0,
      zeros 0, zeros 32, zeros 32, zeros 32, Json.nat 0, .array transactions]
  document.chars.map (·.toNat.toUInt8)

/-- A block at height 5 with one transaction. -/
def first : Delivery := ⟨1, zeroBlock 5 [.array []]⟩

/-- A block at height 6 without transactions. -/
def second : Delivery := ⟨2, zeroBlock 6 []⟩

/-- When the second block comes before the first one, it is stored and the first one is not. -/
theorem second_before_first :
    ∃ t, Reachable (.empty .lenient) 1 t ∧ t.commits.map (·.delivery.sequence) = [2] ∧
      (∀ c ∈ t.commits, c.Sound t.store) ∧ (t.resumed ++ [3]).Pairwise (· ≤ ·) := by
  let passed := ((begin (.empty .lenient) 1 .absent).deliver second).deliver first
  have reached : Reachable (.empty .lenient) 1 passed :=
    (Reachable.deliver (.begin .absent) second).deliver first
  have ends : (passed.commits.map (·.delivery.sequence) == [2] &&
      passed.store.resumePoint 1 == 3) = true := by
    decide +kernel
  simp only [Bool.and_eq_true, beq_iff_eq] at ends
  obtain ⟨sound, -, -, -, resumed, -⟩ := (sequences_rise .lenient [] 1).1 passed reached
  exact ⟨passed, reached, ends.1, sound, ends.2 ▸ resumed⟩

end Replays

end BlockIndexer
