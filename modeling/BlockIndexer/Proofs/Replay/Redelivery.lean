import BlockIndexer.Proofs.Replay.Run
import BlockIndexer.Proofs.Replay.Sequence

/-! Replays of a log that delivers some of its messages again. A delivery that a run has taken is
committed, or it is one that no store takes, and taking it again leaves the database and the
committed sequence as they are. So the redelivered messages show only in the count of what was
dropped or passed over, in the last sequence, and in repeated events of what no store takes. -/

namespace BlockIndexer

/-- The list `xs` with copies of some of its items, of which `p` holds, each put in somewhere after
the item that it repeats. -/
inductive Repeats {α : Type} (p : α → Prop) (xs : List α) : List α → Prop where
  | none : Repeats p xs xs
  | again (before after : List α) {x : α} : Repeats p xs (before ++ after) → x ∈ before → p x →
      Repeats p xs (before ++ x :: after)

namespace Repeats

variable {α : Type} {p : α → Prop} {xs ys zs : List α}

theorem trans (first : Repeats p xs ys) (second : Repeats p ys zs) : Repeats p xs zs := by
  induction second with
  | none => exact first
  | again before after _ earlier holds ih => exact ih.again before after earlier holds

theorem append_right (repeats : Repeats p xs ys) (more : List α) :
    Repeats p (xs ++ more) (ys ++ more) := by
  induction repeats with
  | none => exact .none
  | again before after _ earlier holds ih =>
    rw [List.append_assoc, List.cons_append]
    rw [List.append_assoc] at ih
    exact ih.again before (after ++ more) earlier holds

theorem snoc {x : α} (earlier : x ∈ xs) (holds : p x) : Repeats p xs (xs ++ [x]) :=
  again xs [] (by rw [List.append_nil]; exact .none) earlier holds

/-- Who takes only some of the items gets some of the copies. -/
theorem filter (repeats : Repeats p xs ys) (q : α → Bool) :
    Repeats p (xs.filter q) (ys.filter q) := by
  induction repeats with
  | none => exact .none
  | again before after _ earlier holds ih =>
    rw [List.filter_append] at ih ⊢
    rw [List.filter_cons]
    split
    next kept => exact ih.again _ _ (List.mem_filter.mpr ⟨earlier, kept⟩) holds
    next => exact ih

end Repeats

/-- A receiver that takes so many reports before it leaves, if it leaves. -/
def Receiver.HasRoom (receiver : Receiver) (n : Nat) : Prop :=
  ∀ room, receiver = .leaving room → n ≤ room

namespace Receiver.HasRoom

variable {receiver : Receiver} {m n : Nat}

theorem mono (room : receiver.HasRoom n) (le : m ≤ n) : receiver.HasRoom m :=
  fun k leaving => Nat.le_trans le (room k leaving)

theorem send? (room : receiver.HasRoom (n + 1)) :
    ∃ receiver', receiver.send? = some receiver' ∧ receiver'.HasRoom n := by
  cases receiver with
  | absent => exact ⟨.absent, rfl, nofun⟩
  | staying => exact ⟨.staying, rfl, nofun⟩
  | leaving k =>
    have le := room k rfl
    obtain ⟨k, rfl⟩ := Nat.exists_eq_add_of_le' (Nat.lt_of_lt_of_le n.succ_pos le)
    refine ⟨.leaving k, rfl, ?_⟩
    rintro _ ⟨⟩
    omega

end Receiver.HasRoom

/-- The event of a delivery that no store under a policy takes, whatever it holds. -/
inductive Delivery.Refused (policy : NumericPolicy) (d : Delivery) : DispatchEvent → Prop where
  | undecodable : Block.ofBytes? d.payload = none → Refused policy d (.undecodable d.sequence)
  | unmapped {b : Block} {cause : Error} : Block.ofBytes? d.payload = some b →
      (b.withSequence d.sequence).toRows policy = .error cause →
      Refused policy d (.dropped b.height.toNat cause)

theorem Delivery.Refused.storedHeight? {policy : NumericPolicy} {d : Delivery}
    {event : DispatchEvent} (refused : d.Refused policy event) : event.storedHeight? = none := by
  cases refused <;> rfl

namespace Database

variable {s : Store} {d : Delivery} {event : DispatchEvent}

theorem deliver_of_refused (refused : d.Refused s.policy event) :
    (ofStore s).deliver d = (event, ofStore s) := by
  cases refused with
  | undecodable decoded => simp only [deliver, decoded]
  | unmapped decoded mapped =>
    simp only [deliver, decoded, store?, insert, ask, ofStore, List.lookup_nil,
      Store.insert_unmapped mapped]

/-- Without planted failures, a delivery is stored if it is one that a store takes. -/
theorem deliver_of_clean (clean : s.failures = []) (d : Delivery) :
    (∃ event, d.Refused s.policy event) ∨
      ((ofStore s).deliver d).1.storedHeight?.isSome = true := by
  cases decoded : Block.ofBytes? d.payload with
  | none => exact .inl ⟨_, .undecodable decoded⟩
  | some b =>
    rcases Store.insert_cases_of_clean clean (b.withSequence d.sequence) with ⟨e, mapped⟩ |
      ⟨rows, mapped, stored⟩ | ⟨rows, mapped, absent, unplanted⟩
    · exact .inl ⟨_, .unmapped decoded mapped⟩
    · refine .inr ?_
      simp only [deliver, decoded, store?, insert, ask, ofStore, List.lookup_nil,
        Store.insert_repeated mapped stored]
      rfl
    · refine .inr ?_
      simp only [deliver, decoded, store?, insert, ask, ofStore, List.lookup_nil,
        Store.insert_written mapped absent unplanted]
      split <;> rfl

end Database

namespace Replay

variable {r r' : Replay} {policy : NumericPolicy} {d : Delivery} {ds : List Delivery}

/-- A run whose receiver stays long enough takes all deliveries. -/
theorem run_of_room (room : r.receiver.HasRoom ds.length) : r.run ds = ds.foldl next r := by
  induction ds generalizing r with
  | nil => rfl
  | cons d ds ih =>
    rw [run, List.foldl_cons]
    by_cases passed : r.isCommitted d = true
    · rw [if_pos passed, next_of_committed passed]
      exact ih (room.mono (Nat.le_succ _))
    · obtain ⟨receiver, sent, left⟩ := room.send?
      rw [if_neg passed, next, if_neg passed, sent]
      exact ih left

theorem room_next {n : Nat} (room : r.receiver.HasRoom (n + 1)) (d : Delivery) :
    (r.next d).receiver.HasRoom n := by
  unfold next
  split
  · exact room.mono (Nat.le_succ n)
  · obtain ⟨receiver, sent, left⟩ := room.send?
    rw [sent]
    exact left

theorem room_foldl {n : Nat} (room : r.receiver.HasRoom (ds.length + n)) :
    (ds.foldl next r).receiver.HasRoom n := by
  induction ds generalizing r with
  | nil => exact room.mono (Nat.le_add_left ..)
  | cons d ds ih =>
    refine ih (room_next (room.mono ?_) d)
    rw [List.length_cons]
    omega

theorem next_of_fresh {receiver : Receiver} (fresh : ¬r.isCommitted d = true)
    (sent : r.receiver.send? = some receiver) :
    r.next d = ⟨(r.db.deliver d).2, r.report.count d.sequence (r.db.deliver d).1,
      committedAfter r.committed d.sequence (r.db.deliver d).1, receiver,
      r.events ++ [(r.db.deliver d).1]⟩ := by
  rw [next, if_neg fresh, sent]
  rfl

/-! ### Runs that differ by what was redelivered -/

/-- A run that is where another one is, but for what redelivered messages may have changed. -/
structure Agrees (r r' : Replay) : Prop where
  db : r'.db = r.db
  committed : r'.committed = r.committed
  resumedAt : r'.report.resumedAt = r.report.resumedAt
  indexed : r'.report.indexed = r.report.indexed
  alreadyIndexed : r'.report.alreadyIndexed = r.report.alreadyIndexed
  events : Repeats (·.storedHeight? = none) r.events r'.events

namespace Agrees

theorem trans {r'' : Replay} (first : r.Agrees r') (second : r'.Agrees r'') : r.Agrees r'' where
  db := second.db.trans first.db
  committed := second.committed.trans first.committed
  resumedAt := second.resumedAt.trans first.resumedAt
  indexed := second.indexed.trans first.indexed
  alreadyIndexed := second.alreadyIndexed.trans first.alreadyIndexed
  events := first.events.trans second.events

theorem isCommitted (agrees : r.Agrees r') (d : Delivery) :
    r'.isCommitted d = r.isCommitted d := by
  rw [Replay.isCommitted, agrees.committed, Replay.isCommitted]

/-- Runs that agree take one more delivery alike. -/
theorem next (agrees : r.Agrees r') (room : r.receiver.HasRoom 1)
    (room' : r'.receiver.HasRoom 1) (d : Delivery) : (r.next d).Agrees (r'.next d) := by
  obtain ⟨receiver, sent, -⟩ := room.send?
  obtain ⟨receiver', sent', -⟩ := room'.send?
  by_cases passed : r.isCommitted d = true
  · rw [next_of_committed passed, next_of_committed ((agrees.isCommitted d).trans passed)]
    exact { agrees with }
  · rw [next_of_fresh passed sent, next_of_fresh (agrees.isCommitted d ▸ passed) sent', agrees.db,
      agrees.committed]
    generalize (r.db.deliver d).1 = event
    refine ⟨rfl, rfl, ?_, ?_, ?_, agrees.events.append_right _⟩
    · cases event <;> exact agrees.resumedAt
    · cases event <;> simp only [ReplayReport.count, agrees.indexed]
    · cases event <;> simp only [ReplayReport.count, agrees.alreadyIndexed]

theorem foldl (agrees : r.Agrees r') (room : r.receiver.HasRoom ds.length)
    (room' : r'.receiver.HasRoom ds.length) :
    (ds.foldl Replay.next r).Agrees (ds.foldl Replay.next r') := by
  induction ds generalizing r r' with
  | nil => exact agrees
  | cons d ds ih =>
    have one : 1 ≤ (d :: ds).length := Nat.succ_pos _
    exact ih (agrees.next (room.mono one) (room'.mono one) d) (room_next room d)
      (room_next room' d)

end Agrees

/-! ### Deliveries that were taken -/

/-- The database of a run is a store under a policy, without refusals and planted failures. -/
def Clean (policy : NumericPolicy) (r : Replay) : Prop :=
  ∃ s, r.db = .ofStore s ∧ s.failures = [] ∧ s.policy = policy

/-- What a run knows of a delivery that it has taken: it is committed, or it is one that no store
takes, as its event has said. -/
def Knows (policy : NumericPolicy) (r : Replay) (d : Delivery) : Prop :=
  r.isCommitted d = true ∨ ∃ event ∈ r.events, d.Refused policy event

theorem Clean.next (clean : r.Clean policy) (d : Delivery) : (r.next d).Clean policy := by
  obtain ⟨s, hdb, unplanted, hpolicy⟩ := clean
  by_cases passed : r.isCommitted d = true
  · rw [next_of_committed passed]
    exact ⟨s, hdb, unplanted, hpolicy⟩
  · refine ⟨s.deliver d, ?_, Store.failures_deliver unplanted d, by
      rw [Store.policy_deliver, hpolicy]⟩
    rw [db_next (Bool.eq_false_iff.mpr passed), hdb, Database.deliver_ofStore]

theorem isCommitted_next {e : Delivery} (committed : r.isCommitted e = true) (d : Delivery) :
    (r.next d).isCommitted e = true := by
  have floor_le : r.floor ≤ (r.next d).floor := by
    cases passed : r.isCommitted d with
    | true => exact Nat.le_of_eq (by rw [next_of_committed passed]; rfl)
    | false =>
      have fresh := isCommitted_eq_false_iff.mp passed
      rw [floor_next passed]
      split <;> omega
  by_contra open_
  have above := isCommitted_eq_false_iff.mp (Bool.eq_false_iff.mpr open_)
  rw [isCommitted_eq_false_iff.mpr (Nat.le_trans floor_le above)] at committed
  contradiction

theorem mem_events_next {event : DispatchEvent} (reported : event ∈ r.events) (d : Delivery) :
    event ∈ (r.next d).events := by
  unfold next
  split
  · exact reported
  · dsimp only
    split
    · exact List.mem_append_left _ reported
    · exact reported

theorem Knows.next {e : Delivery} (known : r.Knows policy e) (d : Delivery) :
    (r.next d).Knows policy e := by
  rcases known with committed | ⟨event, reported, refused⟩
  · exact .inl (isCommitted_next committed d)
  · exact .inr ⟨event, mem_events_next reported d, refused⟩

theorem Knows.foldl (known : r.Knows policy d) (ds : List Delivery) :
    (ds.foldl Replay.next r).Knows policy d := by
  induction ds generalizing r with
  | nil => exact known
  | cons e ds ih => exact ih (known.next e)

theorem knows_next (clean : r.Clean policy) (room : r.receiver.HasRoom 1) (d : Delivery) :
    (r.next d).Knows policy d := by
  obtain ⟨s, hdb, unplanted, rfl⟩ := clean
  obtain ⟨receiver, sent, -⟩ := room.send?
  by_cases passed : r.isCommitted d = true
  · exact .inl (isCommitted_next passed d)
  · rcases Database.deliver_of_clean unplanted d with ⟨event, refused⟩ | stored
    · refine .inr ⟨event, ?_, refused⟩
      rw [next_of_fresh passed sent, hdb, Database.deliver_of_refused refused]
      exact List.mem_append_right _ (List.mem_singleton.mpr rfl)
    · refine .inl ?_
      by_contra above
      have above := isCommitted_eq_false_iff.mp (Bool.eq_false_iff.mpr above)
      rw [floor_next (Bool.eq_false_iff.mpr passed), hdb, if_pos stored] at above
      omega

/-- After a run, all deliveries that it was given are known. -/
theorem knows_foldl (clean : r.Clean policy) (room : r.receiver.HasRoom ds.length)
    (given : d ∈ ds) : (ds.foldl next r).Knows policy d := by
  induction ds generalizing r with
  | nil => exact absurd given List.not_mem_nil
  | cons e ds ih =>
    rcases List.mem_cons.mp given with rfl | later
    · exact (knows_next clean (room.mono (Nat.succ_pos _)) d).foldl ds
    · exact ih (clean.next e) (room_next room e) later

theorem Clean.foldl (clean : r.Clean policy) (ds : List Delivery) :
    (ds.foldl Replay.next r).Clean policy := by
  induction ds generalizing r with
  | nil => exact clean
  | cons d ds ih => exact ih (clean.next d)

/-- A delivery that a run knows changes nothing that counts when it comes again. -/
theorem Knows.agrees (known : r.Knows policy d) (clean : r.Clean policy)
    (room : r.receiver.HasRoom 1) : r.Agrees (r.next d) := by
  obtain ⟨s, hdb, -, rfl⟩ := clean
  obtain ⟨receiver, sent, -⟩ := room.send?
  by_cases passed : r.isCommitted d = true
  · rw [next_of_committed passed]
    exact ⟨rfl, rfl, rfl, rfl, rfl, .none⟩
  · obtain ⟨event, reported, refused⟩ := known.resolve_left passed
    rw [next_of_fresh passed sent, hdb, Database.deliver_of_refused refused]
    refine ⟨hdb.symm, ?_, ?_, ?_, ?_, .snoc reported refused.storedHeight?⟩
    · rw [committedAfter, refused.storedHeight?]
      rfl
    all_goals cases refused <;> rfl

/-- Runs over a log, without and with redelivered messages, agree. -/
theorem agrees_of_repeats {ds' : List Delivery} (clean : r.Clean policy)
    (repeats : Repeats (fun _ => True) ds ds') (agrees : r.Agrees r')
    (room : r.receiver.HasRoom ds.length) (room' : r'.receiver.HasRoom ds'.length) :
    (ds.foldl next r).Agrees (ds'.foldl next r') := by
  induction repeats with
  | none => exact agrees.foldl room room'
  | @again before after d _ earlier _ ih =>
    have clean' : r'.Clean policy := by
      obtain ⟨s, hdb, rest⟩ := clean
      exact ⟨s, agrees.db.trans hdb, rest⟩
    have left : (before.foldl next r').receiver.HasRoom (after.length + 1) :=
      room_foldl (by rwa [List.length_append, List.length_cons] at room')
    have again := (knows_foldl clean' (room'.mono (by simp)) earlier).agrees
      (clean'.foldl before) (left.mono (Nat.succ_pos _))
    have before_after := ih (room'.mono (by simp))
    rw [List.foldl_append] at before_after
    rw [List.foldl_append, List.foldl_cons]
    exact before_after.trans
      (again.foldl (left.mono (Nat.le_succ _)) (room_next left d))

end Replay

namespace Database

/-- A run over a log with messages that are redelivered ends as the run without them does. Only the
counts of what was dropped or passed over and the last sequence may differ, and events of what was
not stored may be repeated. -/
theorem redelivery_unseen {s : Store} (clean : s.failures = []) (start : Nat)
    {log log' : Nat → List Delivery} (repeats : ∀ n, Repeats (fun _ => True) (log n) (log' n))
    {receiver receiver' : Receiver} (room : receiver.HasRoom (log (s.resumePoint start)).length)
    (room' : receiver'.HasRoom (log' (s.resumePoint start)).length) :
    ∃ r r', (ofStore s).replay (fun n => .ok (log n)) start receiver = .ok r ∧
      (ofStore s).replay (fun n => .ok (log' n)) start receiver' = .ok r' ∧
      r'.db = r.db ∧
      (∀ start, r'.db.store.resumePoint start = r.db.store.resumePoint start) ∧
      r'.report.resumedAt = r.report.resumedAt ∧ r'.report.indexed = r.report.indexed ∧
      r'.report.alreadyIndexed = r.report.alreadyIndexed ∧
      Repeats (·.storedHeight? = none) r.events r'.events := by
  have starts : (Replay.start (ofStore s) receiver (s.resumePoint start)).Agrees
      (.start (ofStore s) receiver' (s.resumePoint start)) :=
    ⟨rfl, rfl, rfl, rfl, rfl, .none⟩
  have agrees := Replay.agrees_of_repeats ⟨s, rfl, clean, rfl⟩ (repeats (s.resumePoint start))
    starts room room'
  rw [← Replay.run_of_room room, ← Replay.run_of_room room'] at agrees
  exact ⟨_, _, rfl, rfl, agrees.db, fun n => congrArg (·.store.resumePoint n) agrees.db,
    agrees.resumedAt, agrees.indexed, agrees.alreadyIndexed, agrees.events⟩

/-- A message of which only the opening brace is left. -/
def garbled : Delivery := ⟨1, [123]⟩

/-- The garbled message comes again before and after the block is stored, and so does the block. -/
theorem garbled_redelivered :
    let log : MemoryFeed := ⟨[garbled, Replays.second]⟩
    let log' : MemoryFeed := ⟨[garbled, garbled, Replays.second, garbled, Replays.second]⟩
    ∃ r r', (ofStore (.empty .lenient)).replay (fun n => .ok (log.subscribe n)) 1 .absent = .ok r ∧
      (ofStore (.empty .lenient)).replay (fun n => .ok (log'.subscribe n)) 1 (.leaving 5) =
        .ok r' ∧
      r'.db = r.db ∧ r'.report.indexed = r.report.indexed ∧
      Repeats (·.storedHeight? = none) r.events r'.events ∧
      r.report = ⟨1, 1, 0, 1, 0, some 2⟩ ∧ r'.report = ⟨1, 1, 0, 2, 2, some 2⟩ := by
  intro log log'
  have repeats : Repeats (fun _ => True) log.deliveries log'.deliveries := by
    have once : Repeats (fun _ => True) log.deliveries [garbled, garbled, Replays.second] :=
      .again [garbled] [Replays.second] .none (by simp) trivial
    have twice := once.again [garbled, garbled, Replays.second] [] (by simp : garbled ∈ _) trivial
    exact twice.again [garbled, garbled, Replays.second, garbled] [] (by simp) trivial
  have room : (Receiver.leaving 5).HasRoom (log'.subscribe 1).length := by
    rintro _ ⟨⟩
    exact List.length_filter_le ..
  obtain ⟨r, r', ran, ran', db, -, -, indexed, -, events⟩ :=
    redelivery_unseen (show (Store.empty .lenient).failures = [] from rfl) 1
      (fun n => repeats.filter (n ≤ ·.sequence))
      (show Receiver.absent.HasRoom (log.subscribe 1).length from nofun) room
  refine ⟨r, r', ran, ran', db, indexed, events, ?_, ?_⟩
  · cases ran
    decide +kernel
  · cases ran'
    decide +kernel

end Database

end BlockIndexer
