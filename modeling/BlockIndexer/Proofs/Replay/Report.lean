import BlockIndexer.Proofs.Journal
import BlockIndexer.Proofs.Replay.Sequence
import Mathlib.Data.List.Induction

/-! What the report of a replay says. A run makes one entry for each delivery that it takes: the
event that the delivery ended in, or none if it was passed over. The report is the count of these
entries, and a delivery is passed over if the run resumed above it or has stored one that is not
below it. So the one sequence that the run compares with is the greatest of all that it has
stored. -/

namespace BlockIndexer

namespace Database

/-- Deliveries one after the other: the event of each, and the database after them. -/
def deliverAll (db : Database) : List Delivery → List DispatchEvent × Database
  | [] => ([], db)
  | d :: ds =>
    let (event, db) := db.deliver d
    let (events, db) := deliverAll db ds
    (event :: events, db)

variable {db : Database}

theorem deliverAll_concat (db : Database) (ds : List Delivery) (d : Delivery) :
    db.deliverAll (ds ++ [d]) =
      ((db.deliverAll ds).1 ++ [((db.deliverAll ds).2.deliver d).1],
        ((db.deliverAll ds).2.deliver d).2) := by
  induction ds generalizing db with
  | nil => rfl
  | cons e ds ih =>
    simp only [List.cons_append, deliverAll, ih]

/-- The store has one more block for each delivery that is reported as indexed. -/
theorem blockCount_deliverAll (c : db.store.tables.Consistent) (ds : List Delivery) :
    (db.deliverAll ds).2.store.blockCount =
      db.store.blockCount + (db.deliverAll ds).1.countP (·.indexedHeight?.isSome) := by
  induction ds generalizing db with
  | nil => rfl
  | cons d ds ih =>
    have tells := db.tells_deliver c d
    have rest := ih (tells.consistent c)
    have grown := tells.heights_perm.length_eq
    rw [List.length_append, List.length_map, List.length_map] at grown
    simp only [deliverAll, List.countP_cons]
    rw [rest, Store.blockCount, grown, Store.blockCount]
    cases (db.deliver d).1.indexedHeight? with
    | none => simp
    | some height =>
      simp
      omega

end Database

/-- A delivery that a run has taken, with the event that it ended in unless it was passed over. -/
structure Entry where
  delivery : Delivery
  event : Option DispatchEvent

namespace Entry

/-- Whether the block of the delivery was in the store afterwards. -/
def isStored (e : Entry) : Bool := e.event.any (·.storedHeight?.isSome)

/-- The deliveries that were not passed over. -/
def handled (es : List Entry) : List Delivery :=
  (es.filter (·.event.isSome)).map (·.delivery)

def events (es : List Entry) : List DispatchEvent := es.filterMap (·.event)

/-- A delivery that takes the place of one that was taken: another one only if that was passed
over, and then under its sequence. -/
def Admits (e : Entry) (d : Delivery) : Prop :=
  d.sequence = e.delivery.sequence ∧ (e.event.isSome = true → d = e.delivery)

theorem handled_passed (es : List Entry) (d : Delivery) :
    handled (es ++ [⟨d, none⟩]) = handled es := by
  simp [handled]

theorem handled_delivered (es : List Entry) (d : Delivery) (event : DispatchEvent) :
    handled (es ++ [⟨d, some event⟩]) = handled es ++ [d] := by
  simp [handled]

theorem events_passed (es : List Entry) (d : Delivery) :
    events (es ++ [⟨d, none⟩]) = events es := by
  simp [events]

theorem events_delivered (es : List Entry) (d : Delivery) (event : DispatchEvent) :
    events (es ++ [⟨d, some event⟩]) = events es ++ [event] := by
  simp [events]

end Entry

/-- A delivery comes again in a run that has taken some: the run resumed above it, or has stored one
that it is not above. -/
def Delivery.ComesAgain (resumedAt : Nat) (es : List Entry) (d : Delivery) : Prop :=
  d.sequence < resumedAt ∨ ∃ e ∈ es, e.isStored = true ∧ d.sequence ≤ e.delivery.sequence

/-- The report on deliveries that were taken. -/
def ReplayReport.ofEntries (resumedAt : Nat) (es : List Entry) : ReplayReport where
  resumedAt := resumedAt
  indexed := (Entry.events es).countP (·.indexedHeight?.isSome)
  alreadyIndexed := (Entry.events es).countP (· matches .alreadyIndexed _)
  dropped := (Entry.events es).countP (·.storedHeight?.isNone)
  redelivered := es.countP (·.event.isNone)
  lastSequence := (Entry.handled es).getLast?.map (·.sequence)

namespace ReplayReport

theorem ofEntries_skip (resumedAt : Nat) (es : List Entry) (d : Delivery) :
    (ofEntries resumedAt es).skip = ofEntries resumedAt (es ++ [⟨d, none⟩]) := by
  simp [ofEntries, skip, Entry.handled_passed, Entry.events_passed]

theorem ofEntries_count (resumedAt : Nat) (es : List Entry) (d : Delivery) (event : DispatchEvent) :
    (ofEntries resumedAt es).count d.sequence event =
      ofEntries resumedAt (es ++ [⟨d, some event⟩]) := by
  cases event <;>
    simp [ofEntries, count, Entry.handled_delivered, Entry.events_delivered,
      DispatchEvent.indexedHeight?, DispatchEvent.storedHeight?]

/-- How many deliveries a report counts. -/
def total (report : ReplayReport) : Nat :=
  report.indexed + report.alreadyIndexed + report.dropped + report.redelivered

theorem total_skip (report : ReplayReport) : report.skip.total = report.total + 1 := rfl

theorem total_count (report : ReplayReport) (sequence : Nat) (event : DispatchEvent) :
    (report.count sequence event).total = report.total + 1 := by
  cases event <;> simp only [count, total] <;> omega

/-- Each delivery that was taken is counted once. -/
theorem total_ofEntries (resumedAt : Nat) (es : List Entry) :
    (ofEntries resumedAt es).total = es.length := by
  induction es using List.reverseRecOn with
  | nil => rfl
  | append_singleton es e ih =>
    obtain ⟨d, event⟩ := e
    rw [List.length_append, List.length_singleton, ← ih]
    cases event with
    | none => rw [← ofEntries_skip, total_skip]
    | some event => rw [← ofEntries_count, total_count]

end ReplayReport

namespace Delivery.ComesAgain

variable {resumedAt : Nat} {es : List Entry} {d d' : Delivery}

theorem mono (again : d.ComesAgain resumedAt es) (le : d'.sequence ≤ d.sequence) :
    d'.ComesAgain resumedAt es := by
  rcases again with below | ⟨e, member, stored, notAbove⟩
  · exact .inl (Nat.lt_of_le_of_lt le below)
  · exact .inr ⟨e, member, stored, Nat.le_trans le notAbove⟩

theorem concat_iff {e : Entry} : d.ComesAgain resumedAt (es ++ [e]) ↔
    d.ComesAgain resumedAt es ∨ (e.isStored = true ∧ d.sequence ≤ e.delivery.sequence) := by
  simp only [ComesAgain, List.mem_append, List.mem_singleton, or_and_right, exists_or,
    exists_eq_left, or_assoc]

end Delivery.ComesAgain

/-- The last of some entries and one more, with those before it. -/
theorem Entry.concat_eq_append_cons {es before after : List Entry} {last e : Entry}
    (split : es ++ [last] = before ++ e :: after) :
    (before = es ∧ e = last) ∨ ∃ after', es = before ++ e :: after' := by
  induction after using List.reverseRecOn with
  | nil =>
    obtain ⟨rfl, same⟩ := List.append_inj' split rfl
    exact .inl ⟨rfl, (List.cons.inj same).1.symm⟩
  | append_singleton after last' =>
    rw [← List.cons_append, ← List.append_assoc] at split
    exact .inr ⟨after, (List.append_inj' split rfl).1⟩

namespace Replay

/-- What holds of a run over a database between two deliveries, when it has made these entries. -/
structure Accounts (db : Database) (resumedAt : Nat) (es : List Entry) (r : Replay) : Prop where
  delivered : db.deliverAll (Entry.handled es) = (Entry.events es, r.db)
  report : r.report = .ofEntries resumedAt es
  isCommitted_iff : ∀ d, r.isCommitted d = true ↔ d.ComesAgain resumedAt es
  passedOver : ∀ before e after, es = before ++ e :: after →
    (e.event = none ↔ e.delivery.ComesAgain resumedAt before)

namespace Accounts

variable {db : Database} {resumedAt : Nat} {es : List Entry} {r : Replay} {d : Delivery}

theorem start (db : Database) (receiver : Receiver) (resumedAt : Nat) :
    Accounts db resumedAt [] (.start db receiver resumedAt) where
  delivered := rfl
  report := rfl
  isCommitted_iff d := by
    have floor := floor_start db receiver resumedAt
    rw [← not_iff_not, Bool.not_eq_true, isCommitted_eq_false_iff, floor]
    simp [Delivery.ComesAgain]
  passedOver before e after nil := by simp at nil

theorem passedOver_concat (accounts : Accounts db resumedAt es r) {e : Entry}
    (last : e.event = none ↔ r.isCommitted e.delivery = true) :
    ∀ before e' after, es ++ [e] = before ++ e' :: after →
      (e'.event = none ↔ e'.delivery.ComesAgain resumedAt before) := by
  intro before e' after split
  rcases Entry.concat_eq_append_cons split with ⟨rfl, rfl⟩ | ⟨after', earlier⟩
  · rw [last, accounts.isCommitted_iff]
  · exact accounts.passedOver before e' after' earlier

theorem skip (accounts : Accounts db resumedAt es r) (passed : r.isCommitted d = true) :
    Accounts db resumedAt (es ++ [⟨d, none⟩]) { r with report := r.report.skip } where
  delivered := by
    rw [Entry.handled_passed, Entry.events_passed]
    exact accounts.delivered
  report := by rw [accounts.report, ReplayReport.ofEntries_skip]
  isCommitted_iff d' := by
    rw [Delivery.ComesAgain.concat_iff, ← accounts.isCommitted_iff]
    simp [Entry.isStored, isCommitted]
  passedOver := accounts.passedOver_concat (by simp [passed])

theorem deliver (accounts : Accounts db resumedAt es r) (fresh : r.isCommitted d = false)
    (receiver : Receiver) (events : List DispatchEvent) :
    Accounts db resumedAt (es ++ [⟨d, some (r.db.deliver d).1⟩])
      ⟨(r.db.deliver d).2, r.report.count d.sequence (r.db.deliver d).1,
        committedAfter r.committed d.sequence (r.db.deliver d).1, receiver, events⟩ where
  delivered := by
    rw [Entry.handled_delivered, Entry.events_delivered, Database.deliverAll_concat,
      accounts.delivered]
  report := by rw [accounts.report, ReplayReport.ofEntries_count]
  isCommitted_iff d' := by
    rw [Delivery.ComesAgain.concat_iff]
    by_cases stored : (r.db.deliver d).1.storedHeight?.isSome = true
    · -- What came again before is not above this delivery, which did not.
      have below (again : d'.ComesAgain resumedAt es) : d'.sequence ≤ d.sequence := by
        by_contra above
        have again := again.mono (Nat.le_of_not_le above)
        rw [← accounts.isCommitted_iff, fresh] at again
        contradiction
      simp only [isCommitted, committedAfter, stored, if_true, Option.any_some, decide_eq_true_eq,
        Entry.isStored, true_and]
      exact ⟨.inr, fun again => again.elim below id⟩
    · rw [← accounts.isCommitted_iff]
      simp [isCommitted, committedAfter, stored, Entry.isStored]
  passedOver := accounts.passedOver_concat (by simp [fresh])

end Accounts

/-- How a run ends that was given deliveries and has made some entries and sent some events. -/
inductive Ends (receiver : Receiver) (ds : List Delivery) :
    List Entry → List DispatchEvent → Prop where
  /-- The deliveries have ended, and the receiver has taken all events. -/
  | all (es : List Entry) (taken : es.map (·.delivery) = ds)
      (stays : (receiver.offer (Entry.events es)).2.isSome = true) :
      Ends receiver ds es (Entry.events es)
  /-- The event of a delivery finds the receiver gone, which has taken those before it. -/
  | gone (es : List Entry) {d : Delivery} {event : DispatchEvent}
      (taken : es.map (·.delivery) ++ [d] <+: ds)
      (stays : (receiver.offer (Entry.events es)).2.isSome = true)
      (gone : (receiver.offer (Entry.events es ++ [event])).2 = none) :
      Ends receiver ds (es ++ [⟨d, some event⟩]) (Entry.events es)

namespace Ends

variable {receiver receiver' : Receiver} {ds : List Delivery} {es : List Entry}
  {sent : List DispatchEvent}

theorem skip (ends : Ends receiver ds es sent) (d : Delivery) :
    Ends receiver (d :: ds) (⟨d, none⟩ :: es) sent := by
  cases ends with
  | all _ taken stays => exact .all (⟨d, none⟩ :: es) (congrArg (d :: ·) taken) stays
  | gone es taken stays gone =>
    exact .gone (⟨d, none⟩ :: es) (List.cons_prefix_cons.mpr ⟨rfl, taken⟩) stays gone

theorem deliver (ends : Ends receiver' ds es sent) (taken : receiver.send? = some receiver')
    (d : Delivery) (event : DispatchEvent) :
    Ends receiver (d :: ds) (⟨d, some event⟩ :: es) (event :: sent) := by
  have offer (events : List DispatchEvent) :
      (receiver.offer (event :: events)).2 = (receiver'.offer events).2 := by
    simp only [Receiver.offer, taken]
  cases ends with
  | all _ all stays =>
    exact .all (⟨d, some event⟩ :: es) (congrArg (d :: ·) all) ((offer _).symm ▸ stays)
  | gone es before stays gone =>
    exact .gone (⟨d, some event⟩ :: es) (List.cons_prefix_cons.mpr ⟨rfl, before⟩)
      ((offer _).symm ▸ stays) ((offer _).trans gone)

end Ends

variable {r : Replay} {d : Delivery}

theorem run_of_committed (passed : r.isCommitted d = true) (ds : List Delivery) :
    r.run (d :: ds) = run { r with report := r.report.skip } ds := by
  rw [run, if_pos passed]

theorem run_of_gone (fresh : r.isCommitted d = false) (gone : r.receiver.send? = none)
    (ds : List Delivery) :
    r.run (d :: ds) = ⟨(r.db.deliver d).2, r.report.count d.sequence (r.db.deliver d).1,
      committedAfter r.committed d.sequence (r.db.deliver d).1, r.receiver, r.events⟩ := by
  rw [run, if_neg (Bool.eq_false_iff.mp fresh), gone]

theorem run_of_sent (fresh : r.isCommitted d = false) {receiver : Receiver}
    (sent : r.receiver.send? = some receiver) (ds : List Delivery) :
    r.run (d :: ds) = run ⟨(r.db.deliver d).2, r.report.count d.sequence (r.db.deliver d).1,
      committedAfter r.committed d.sequence (r.db.deliver d).1, receiver,
      r.events ++ [(r.db.deliver d).1]⟩ ds := by
  rw [run, if_neg (Bool.eq_false_iff.mp fresh), sent]

theorem isCommitted_congr {d' : Delivery} (same : d'.sequence = d.sequence) :
    r.isCommitted d' = r.isCommitted d := by
  rw [isCommitted, same, isCommitted]

/-- A run accounts for what it takes, and would end alike if the payloads of what it passes over
were others. -/
theorem Accounts.run {db : Database} {resumedAt : Nat} {es : List Entry}
    (accounts : Accounts db resumedAt es r) (ds : List Delivery) :
    ∃ more sent, Accounts db resumedAt (es ++ more) (r.run ds) ∧
      Ends r.receiver ds more sent ∧ (r.run ds).events = r.events ++ sent ∧
      ∀ others, List.Forall₂ Entry.Admits more others → r.run others = r.run ds := by
  induction ds generalizing r es with
  | nil =>
    refine ⟨[], [], by rwa [List.append_nil], .all [] rfl rfl, (List.append_nil _).symm, ?_⟩
    rintro _ ⟨⟩
    rfl
  | cons d ds ih =>
    cases passed : r.isCommitted d with
    | true =>
      obtain ⟨more, sent, accounts', ends, events, unread⟩ := ih (accounts.skip passed)
      rw [run_of_committed passed]
      refine ⟨⟨d, none⟩ :: more, sent, ?_, ends.skip d, events, ?_⟩
      · rwa [List.append_assoc] at accounts'
      · rintro _ (_ | ⟨⟨same, -⟩, admitted⟩)
        rw [run_of_committed ((isCommitted_congr same).trans passed)]
        exact unread _ admitted
    | false =>
      have admits_self {d' : Delivery} (admits : Entry.Admits ⟨d, some (r.db.deliver d).1⟩ d') :
          d' = d := admits.2 rfl
      cases sent : r.receiver.send? with
      | none =>
        -- A delivery is counted before its event is sent, so this one is in the report.
        rw [run_of_gone passed sent]
        refine ⟨[⟨d, some (r.db.deliver d).1⟩], [], accounts.deliver passed .., ?_,
          (List.append_nil _).symm, ?_⟩
        · refine .gone [] (List.prefix_append [d] ds) rfl ?_
          show (r.receiver.offer [_]).2 = none
          simp only [Receiver.offer, sent]
        · rintro _ (_ | ⟨admits, admitted⟩)
          rw [admits_self admits, run_of_gone passed sent]
      | some receiver =>
        obtain ⟨more, rest, accounts', ends, events, unread⟩ :=
          ih (accounts.deliver passed receiver (r.events ++ [(r.db.deliver d).1]))
        rw [run_of_sent passed sent]
        refine ⟨⟨d, some (r.db.deliver d).1⟩ :: more, (r.db.deliver d).1 :: rest, ?_,
          ends.deliver sent d _, ?_, ?_⟩
        · rwa [List.append_assoc] at accounts'
        · rw [events, List.append_assoc]
          rfl
        · rintro _ (_ | ⟨admits, admitted⟩)
          rw [admits_self admits, run_of_sent passed sent]
          exact unread _ admitted

end Replay

namespace Database

/-- A run makes an entry for each delivery that it takes, and its report is the count of these
entries, each delivery counted once. There are as many more blocks in the store as were indexed. The
events and the database are those of the deliveries that were not passed over, one after the other;
one is passed over if and only if it comes again, and then its payload does not matter. If the
receiver takes all events, all deliveries are taken. Otherwise the last delivery that is taken is
the one whose event finds the receiver gone. -/
theorem report_faithful (policy : NumericPolicy) (ops : List Operation)
    (refusals : List (Query × String)) (start : Nat) (log : Nat → List Delivery)
    (receiver : Receiver) :
    let db : Database := ⟨(Store.empty policy).run ops, refusals⟩
    ∀ resumedAt, db.resumePoint start = .ok resumedAt →
    ∃ r es, db.replay (fun n => .ok (log n)) start receiver = .ok r ∧
      r.report = .ofEntries resumedAt es ∧
      r.report.indexed + r.report.alreadyIndexed + r.report.dropped + r.report.redelivered =
        es.length ∧
      r.db.store.blockCount = db.store.blockCount + r.report.indexed ∧
      db.deliverAll (Entry.handled es) = (Entry.events es, r.db) ∧
      (∀ before e after, es = before ++ e :: after →
        (e.event = none ↔ e.delivery.ComesAgain resumedAt before)) ∧
      (∀ others, List.Forall₂ Entry.Admits es others →
        (Replay.start db receiver resumedAt).run others = r) ∧
      ((receiver.offer (Entry.events es)).2.isSome = true →
        es.map (·.delivery) = log resumedAt ∧ r.events = Entry.events es) ∧
      ((receiver.offer (Entry.events es)).2 = none →
        ∃ earlier d event, es = earlier ++ [⟨d, some event⟩] ∧
          es.map (·.delivery) <+: log resumedAt ∧ r.events = Entry.events earlier ∧
          (receiver.offer (Entry.events earlier)).2.isSome = true) := by
  intro db resumedAt asked
  have c : db.store.tables.Consistent := Store.consistent_run Tables.consistent_empty ops
  have ran : db.replay (fun n => .ok (log n)) start receiver =
      .ok ((Replay.start db receiver resumedAt).run (log resumedAt)) :=
    Replays.replay_eq_ok.mpr ⟨resumedAt, log resumedAt, asked, rfl, rfl⟩
  obtain ⟨es, sent, accounts, ends, events, unread⟩ :=
    (Replay.Accounts.start db receiver resumedAt).run (log resumedAt)
  rw [List.nil_append] at accounts
  have ends : Replay.Ends receiver (log resumedAt) es sent := ends
  have events : ((Replay.start db receiver resumedAt).run (log resumedAt)).events = sent := events
  have delivered := accounts.delivered
  have report := accounts.report
  have grown := blockCount_deliverAll c (Entry.handled es)
  rw [delivered] at grown
  refine ⟨_, es, ran, report, ?_, ?_, delivered, accounts.passedOver, unread, ?_⟩
  · rw [report]
    exact ReplayReport.total_ofEntries resumedAt es
  · rw [report]
    exact grown
  rw [events]
  cases ends with
  | all _ taken stays =>
    refine ⟨fun _ => ⟨taken, rfl⟩, fun gone => ?_⟩
    rw [gone] at stays
    contradiction
  | @gone es d event taken stays gone =>
    rw [Entry.events_delivered, gone]
    refine ⟨nofun, fun _ => ⟨es, d, event, rfl, ?_, rfl, stays⟩⟩
    rw [List.map_append]
    exact taken

/-- A garbled message, a block, an older message, the same block again, a block whose first insert
is made to fail, and the same block again, which is not taken any more, because the receiver leaves
after three events. -/
theorem report_until_gone :
    let db : Database := ofStore ((Store.empty .lenient).run [.plantFailure 5 0])
    let log : List Delivery := [⟨1, [123]⟩, Replays.second, Replays.first,
      ⟨3, Replays.second.payload⟩, ⟨4, Replays.first.payload⟩, ⟨5, Replays.first.payload⟩]
    ∃ (r : Replay) (es : List Entry), db.replay (fun _ => .ok log) 1 (.leaving 3) = .ok r ∧
      r.report = ⟨1, 1, 1, 2, 1, some 4⟩ ∧ es.length = 5 ∧ es.map (·.delivery) <+: log ∧
      r.db.store.blockCount = 1 ∧ r.events.length = 3 := by
  intro db log
  obtain ⟨r, es, ran, -, total, grown, -, -, -, stayed, gone⟩ :=
    report_faithful .lenient [.plantFailure 5 0] [] 1 (fun _ => log) (.leaving 3) 1 rfl
  have ends : r.report = ⟨1, 1, 1, 2, 1, some 4⟩ ∧ r.events.length = 3 := by
    cases ran
    decide +kernel
  rw [ends.1] at total grown
  have taken : es.map (·.delivery) <+: log := by
    cases left : (Receiver.offer (.leaving 3) (Entry.events es)).2 with
    | none =>
      obtain ⟨-, -, -, -, taken, -, -⟩ := gone left
      exact taken
    | some receiver =>
      obtain ⟨taken, -⟩ := stayed (by rw [left]; rfl)
      exact taken ▸ List.prefix_rfl
  exact ⟨r, es, ran, ends.1, total.symm, taken, grown, ends.2⟩

end Database

end BlockIndexer
