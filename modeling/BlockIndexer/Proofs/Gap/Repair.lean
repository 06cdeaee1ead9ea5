import BlockIndexer.Proofs.Dispatch
import BlockIndexer.Proofs.Gap.Pass
import BlockIndexer.Proofs.Store.WriteOnce

/-! A pass of the scanner and the dispatches of what it queued. Each missing height is dispatched
once, and is stored by then or dropped. Dispatches only ever insert into the store, so that nothing
that was there changes, and what another pass finds are the heights that were dropped. -/

namespace BlockIndexer

namespace DispatchEvent

/-- The events of a height that is not stored when it is dispatched. -/
inductive OfMissing (height : Nat) : DispatchEvent → Prop where
  | indexed (outcome : Outcome) : OfMissing height (.indexed height outcome)
  | dropped (cause : Error) : OfMissing height (.dropped height cause)

variable {events : List DispatchEvent} {heights : List Nat} {h : Nat}

theorem droppedHeights_sublist (each : List.Forall₂ OfMissing heights events) :
    (events.filterMap droppedHeight?).Sublist heights := by
  induction each with
  | nil => exact .slnil
  | cons one _ ih =>
    cases one with
    | indexed outcome => exact ih.cons _
    | dropped cause => exact ih.cons_cons _

theorem indexed_or_dropped (each : List.Forall₂ OfMissing heights events) (hmem : h ∈ heights) :
    (∃ outcome, .indexed h outcome ∈ events) ∨ ∃ cause, .dropped h cause ∈ events := by
  induction each with
  | nil => exact absurd hmem List.not_mem_nil
  | cons one _ ih =>
    rcases List.mem_cons.mp hmem with rfl | hmem
    · cases one with
      | indexed outcome => exact .inl ⟨outcome, List.mem_cons_self⟩
      | dropped cause => exact .inr ⟨cause, List.mem_cons_self⟩
    · rcases ih hmem with ⟨outcome, hevent⟩ | ⟨cause, hevent⟩
      · exact .inl ⟨outcome, List.mem_cons_of_mem _ hevent⟩
      · exact .inr ⟨cause, List.mem_cons_of_mem _ hevent⟩

theorem mem_of_indexed (each : List.Forall₂ OfMissing heights events) {outcome : Outcome}
    (hevent : .indexed h outcome ∈ events) : h ∈ heights := by
  induction each with
  | nil => exact absurd hevent List.not_mem_nil
  | cons one _ ih =>
    rcases List.mem_cons.mp hevent with rfl | hevent
    · cases one
      exact List.mem_cons_self
    · exact List.mem_cons_of_mem _ (ih hevent)

/-- Of different heights, none was indexed and dropped. -/
theorem not_indexed_of_dropped (each : List.Forall₂ OfMissing heights events)
    (distinct : heights.Nodup) {cause : Error} (hevent : .dropped h cause ∈ events)
    (outcome : Outcome) : .indexed h outcome ∉ events := by
  induction each with
  | nil => exact List.not_mem_nil
  | @cons height event heights events one rest ih =>
    obtain ⟨fresh, distinct⟩ := List.nodup_cons.mp distinct
    have dropped_mem (later : .dropped h cause ∈ events) : h ∈ heights :=
      (droppedHeights_sublist rest).subset (mem_filterMap_droppedHeight?.mpr ⟨cause, later⟩)
    intro both
    rcases List.mem_cons.mp both with rfl | indexed
    · cases one
      rcases List.mem_cons.mp hevent with eq | dropped
      · contradiction
      · exact fresh (dropped_mem dropped)
    · rcases List.mem_cons.mp hevent with rfl | dropped
      · cases one
        exact fresh (mem_of_indexed rest indexed)
      · exact ih distinct dropped indexed

end DispatchEvent

namespace Database

open DispatchEvent

variable {s : Store} {source : Source} {height : Nat}

/-- A consumer that dispatches until the queue is empty dispatches the highest height first and
then what is left. -/
theorem drain_eq (db : Database) (source : Source) (q : Queue) :
    db.drain source q =
      match db.dispatchNext? source q with
      | none => ([], db)
      | some (event, db, q) => (event :: (db.drain source q).1, (db.drain source q).2) := by
  obtain ⟨heights, sorted⟩ := q
  cases heights with
  | nil => rfl
  | cons height heights => rfl

/-- A dispatch of a missing height inserts into the store or leaves it alone. The height is stored
afterwards if the event says so, and no other height is. -/
theorem dispatch_of_missing (c : s.tables.Consistent) (faithful : source.Faithful)
    (absent : s.contains height = false) :
    let event := ((ofStore s).dispatch source height).1
    ∃ ops, ((ofStore s).dispatch source height).2 = .ofStore (s.run ops) ∧
      OfMissing height event ∧
      ∀ h, (s.run ops).contains h = true ↔
        s.contains h = true ∨ ∃ outcome, .indexed h outcome = event := by
  cases fetched : source height with
  | error e =>
    have dispatched : (ofStore s).dispatch source height = (.dropped height e, ofStore s) := by
      simp only [dispatch, fetched]
    rw [dispatched]
    refine ⟨[], rfl, .dropped e, fun h => ?_⟩
    simp only [reduceCtorEq, exists_false, or_false]
    rfl
  | ok b =>
    have hheight := faithful height b fetched
    have dispatched : (ofStore s).dispatch source height = (ofStore s).store? height b := by
      simp only [dispatch, fetched]
    have left : ((ofStore s).store? height b).2 = .ofStore (s.run [.insert b]) :=
      (ofStore s).store?_snd height b
    rw [dispatched]
    refine ⟨[.insert b], left, ?_⟩
    rcases (ofStore s).store?_cases c height b with ⟨tables, event⟩ |
      ⟨rows, mapped, -, event, tables⟩
    · rw [left] at tables
      have same (h : Nat) : (s.run [.insert b]).contains h = s.contains h :=
        congrArg (Tables.contains · h) tables
      rcases event with ⟨-, stored⟩ | ⟨cause, event⟩
      · rw [hheight] at stored
        exact absurd (absent.symm.trans stored) Bool.false_ne_true
      · rw [event]
        refine ⟨.dropped cause, fun h => ?_⟩
        simp only [same, reduceCtorEq, exists_false, or_false]
    · rw [left] at tables
      have added (h : Nat) :
          (s.run [.insert b]).contains h = true ↔ h = height ∨ s.contains h = true := by
        have written : (s.run [.insert b]).contains h = (s.tables.addRows rows).1.contains h :=
          congrArg (Tables.contains · h) tables
        rw [written, s.tables.contains_addRows, Block.height_of_toRows mapped, hheight]
        rfl
      rw [event]
      refine ⟨.indexed rows.outcome, fun h => ?_⟩
      rw [added, or_comm]
      simp only [DispatchEvent.indexed.injEq, exists_and_left, exists_eq, and_true]

/-- Different heights that are missing are dispatched with one event each. Those are stored
afterwards that were stored before or were indexed. -/
theorem dispatchAll_of_missing (c : s.tables.Consistent) (faithful : source.Faithful)
    {heights : List Nat} (distinct : heights.Nodup)
    (absent : ∀ h ∈ heights, s.contains h = false) :
    let events := ((ofStore s).dispatchAll source heights).1
    ∃ ops, ((ofStore s).dispatchAll source heights).2 = .ofStore (s.run ops) ∧
      List.Forall₂ OfMissing heights events ∧
      ∀ h, (s.run ops).contains h = true ↔
        s.contains h = true ∨ ∃ outcome, .indexed h outcome ∈ events := by
  induction heights generalizing s with
  | nil => exact ⟨[], rfl, .nil, fun h => by simp [dispatchAll, Store.run]⟩
  | cons height heights ih =>
    obtain ⟨fresh, distinct⟩ := List.nodup_cons.mp distinct
    obtain ⟨ops, next, event, contains⟩ :=
      dispatch_of_missing c faithful (absent height List.mem_cons_self)
    -- A dispatch stores no height but its own, so the others are still missing.
    have missing : ∀ h ∈ heights, (s.run ops).contains h = false := by
      intro h waits
      rw [← Bool.not_eq_true, contains]
      rintro (before | ⟨outcome, indexed⟩)
      · rw [absent h (List.mem_cons_of_mem _ waits)] at before
        contradiction
      · rw [← indexed] at event
        cases event
        exact fresh waits
    obtain ⟨more, rest, each, contains'⟩ := ih (Store.consistent_run c ops) distinct missing
    have all : (ofStore s).dispatchAll source (height :: heights) =
        (((ofStore s).dispatch source height).1 ::
            ((ofStore (s.run ops)).dispatchAll source heights).1,
          ((ofStore (s.run ops)).dispatchAll source heights).2) := by
      rw [← next]
      rfl
    rw [all]
    refine ⟨ops ++ more, ?_, .cons event each, fun h => ?_⟩
    · rw [Store.run_append]
      exact rest
    · simp only [Store.run_append, contains', contains, List.mem_cons, exists_or, or_assoc]

end Database

namespace GapScanner

open DispatchEvent

section Drained

variable {scanner : GapScanner} {tip h : Nat} {s drained : Store} {events : List DispatchEvent}
  (each : List.Forall₂ OfMissing (scanner.gaps s tip) events)
  (contains : ∀ h, drained.contains h = true ↔
    s.contains h = true ∨ ∃ outcome, .indexed h outcome ∈ events)

include each contains

/-- A covered height is missing after the dispatches if it was missing and was dropped. -/
theorem missing_drained_iff (covered : scanner.Covers tip h) : drained.contains h = false ↔
    s.contains h = false ∧ ∃ cause, .dropped h cause ∈ events := by
  rw [← Bool.not_eq_true, contains, not_or, Bool.not_eq_true]
  refine and_congr_right fun absent => ?_
  have queued : h ∈ scanner.gaps s tip := mem_gaps.mpr ⟨covered, absent⟩
  constructor
  · intro never
    exact (indexed_or_dropped each queued).resolve_left never
  · rintro ⟨cause, dropped⟩ ⟨outcome, indexed⟩
    exact not_indexed_of_dropped each (scanner.gaps_nodup s tip) dropped outcome indexed

theorem gaps_drained : scanner.gaps drained tip = events.filterMap droppedHeight? := by
  have sub := droppedHeights_sublist each
  have falls := (scanner.gaps_fall s tip).sublist sub
  have distinct := (scanner.gaps_nodup s tip).sublist sub
  -- Both lists fall, so that it is enough that they hold the same heights.
  have perm : (scanner.gaps drained tip).Perm (events.filterMap droppedHeight?) := by
    refine (List.perm_ext_iff_of_nodup (scanner.gaps_nodup drained tip) distinct).mpr fun h => ?_
    rw [mem_gaps, mem_filterMap_droppedHeight?]
    constructor
    · rintro ⟨covered, absent⟩
      exact ((missing_drained_iff each contains covered).mp absent).2
    · intro dropped
      have queued := sub.subset (mem_filterMap_droppedHeight?.mpr dropped)
      obtain ⟨covered, absent⟩ := mem_gaps.mp queued
      exact ⟨covered, (missing_drained_iff each contains covered).mpr ⟨absent, dropped⟩⟩
  exact perm.eq_of_pairwise (fun a b _ _ hab hba => absurd hab (Nat.lt_asymm hba))
    (scanner.gaps_fall drained tip) falls

end Drained

/-- A pass over a store and the dispatches of what it queued. The pass queues the missing heights
that its windows cover, which are dispatched highest first with one event each, and each is indexed
or dropped. Of the heights that are covered, those that were dropped are missing afterwards. What
was stored stays as it was, and nothing is stored elsewhere. Another pass covers the same windows
and queues what was dropped, in the same order. -/
theorem repairs (policy : NumericPolicy) (ops : List Operation) (scanner : GapScanner) (tip : Nat)
    {source : Source} (faithful : source.Faithful) :
    let s := (Store.empty policy).run ops
    let windows := ScanWindows.windowCount tip scanner.windowSize scanner.maxWindows
    ∃ (queue again : Queue) (drained : Store) (events : List DispatchEvent),
      (scanner.pass (.ofStore s) .empty tip = (.ok ⟨windows, queue.size⟩, queue) ∧
        (∀ h, h ∈ queue.toList ↔ scanner.Covers tip h ∧ s.contains h = false) ∧
        queue.toList.Pairwise (· > ·)) ∧
      ((Database.ofStore s).drain source queue = (events, .ofStore drained) ∧
        List.Forall₂ OfMissing queue.toList events ∧
        ∀ (db : Database) q, db.drain source q =
          match db.dispatchNext? source q with
          | none => ([], db)
          | some (event, db, q) => (event :: (db.drain source q).1, (db.drain source q).2)) ∧
      (∀ h, scanner.Covers tip h → (drained.contains h = false ↔
        s.contains h = false ∧ ∃ cause, .dropped h cause ∈ events)) ∧
      ((∀ h rows, s.rowsAt? h = some rows → drained.rowsAt? h = some rows) ∧
        s.tables.transactions <+: drained.tables.transactions ∧ s.events <+: drained.events ∧
        ∀ h, s.contains h = false → drained.contains h = true → scanner.Covers tip h) ∧
      (scanner.pass (.ofStore drained) .empty tip = (.ok ⟨windows, again.size⟩, again) ∧
        again.toList = events.filterMap droppedHeight? ∧
        ((∀ h cause, .dropped h cause ∉ events) → again = .empty)) := by
  intro s windows
  have c : s.tables.Consistent := Store.consistent_run Tables.consistent_empty ops
  have absent : ∀ h ∈ scanner.gaps s tip, s.contains h = false := by
    intro h queued
    exact (mem_gaps.mp queued).2
  obtain ⟨more, drained, each, contains⟩ :=
    Database.dispatchAll_of_missing c faithful (scanner.gaps_nodup s tip) absent
  have again := gaps_drained each contains
  refine ⟨Queue.empty.pushAll (scanner.gaps s tip),
    Queue.empty.pushAll (scanner.gaps (s.run more) tip), s.run more,
    ((Database.ofStore s).dispatchAll source (scanner.gaps s tip)).1,
    ⟨scanner.pass_ofStore s tip, ?_⟩, ?_, fun h => missing_drained_iff each contains,
    ⟨?_, ?_, ?_, ?_⟩, scanner.pass_ofStore (s.run more) tip, ?_⟩
  · rw [toList_pushAll_gaps]
    exact ⟨fun h => mem_gaps, scanner.gaps_fall s tip⟩
  · rw [Database.drain, toList_pushAll_gaps, ← drained]
    exact ⟨rfl, each, fun db q => db.drain_eq source q⟩
  · intro h rows shown
    exact Store.rowsAt?_run_of_some c more shown
  · exact (Store.run_extends c more).1
  · exact (Store.run_extends c more).2
  · intro h missing stored
    rcases (contains h).mp stored with before | ⟨outcome, indexed⟩
    · rw [missing] at before
      contradiction
    · exact (mem_gaps.mp (mem_of_indexed each indexed)).1
  · rw [toList_pushAll_gaps]
    refine ⟨again, fun none => ?_⟩
    have nil : scanner.gaps (s.run more) tip = [] := by
      rw [again, List.eq_nil_iff_forall_not_mem]
      intro h hmem
      obtain ⟨cause, dropped⟩ := mem_filterMap_droppedHeight?.mp hmem
      exact none h cause dropped
    rw [nil]
    rfl

/-- A source of one block. -/
def oneBlock (b : Block) : Source := fun h =>
  if b.height.toNat = h then .ok b else .error (.rpc "no block")

theorem oneBlock_faithful (b : Block) : (oneBlock b).Faithful := by
  intro h other fetched
  unfold oneBlock at fetched
  split at fetched
  next eq =>
    cases fetched
    exact eq
  next => contradiction

/-- Of the heights 3 to 5 the middle one is stored, and one of the others can be fetched. -/
theorem repairs_one_of_two :
    ∃ drained events,
      (Database.ofStore ((Store.empty .lenient).run [.insert (.empty 1 4)])).drain
        (oneBlock (.empty 1 3)) ((Queue.empty.push 5).push 3) = (events, .ofStore drained) ∧
      drained.contains 5 = false ∧
      (GapScanner.mk 3 1).pass (.ofStore drained) .empty 5 =
        (.ok ⟨1, 1⟩, Queue.empty.push 5) := by
  obtain ⟨queue, again, drained, events, ⟨passed, -⟩, ⟨drain, -⟩, missing, -, next, eq, -⟩ :=
    repairs .lenient [.insert (.empty 1 4)] ⟨3, 1⟩ 5 (oneBlock_faithful (.empty 1 3))
  have queued : queue = (Queue.empty.push 5).push 3 := by
    rw [pass_ofStore] at passed
    rw [← (Prod.mk.inj passed).2]
    decide +kernel
  have dropped : events.filterMap droppedHeight? = [5] := by
    rw [← (Prod.mk.inj drain).1, queued]
    decide +kernel
  have five : again = Queue.empty.push 5 := Queue.toList_inj.mp (eq.trans dropped)
  rw [five] at next
  refine ⟨drained, events, queued ▸ drain, (missing 5 (by decide)).mpr ⟨by decide +kernel, ?_⟩,
    next⟩
  rw [← mem_filterMap_droppedHeight?, dropped]
  exact List.mem_singleton.mpr rfl

end GapScanner

end BlockIndexer
