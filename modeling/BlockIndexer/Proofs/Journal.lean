import BlockIndexer.Proofs.Gap.Repair
import BlockIndexer.Proofs.Replay.Step
import BlockIndexer.Proofs.Store.WriteOnce

/-! What events tell of the store. Dispatches of a queue and deliveries of a log work on one store,
in any order, while heights are queued, failures are planted and queries are refused between them.
Each of them ends in one event, and the event says what became of the tables. So over a whole run
the heights that were reported as indexed are those that came into the store, each of them once. -/

namespace BlockIndexer

namespace DispatchEvent

/-- What an event tells of the tables before and after the work that it ends. -/
inductive Tells (before : Tables) : DispatchEvent → Tables → Prop where
  | indexed {rows : BlockRows} (wf : rows.WellFormed)
      (absent : before.contains rows.height = false) :
      Tells before (.indexed rows.height rows.outcome) (before.addRows rows).1
  | alreadyIndexed {height : Nat} (stored : before.contains height = true) :
      Tells before (.alreadyIndexed height) before
  | dropped (height : Nat) (cause : Error) : Tells before (.dropped height cause) before
  | undecodable (sequence : Nat) : Tells before (.undecodable sequence) before

namespace Tells

variable {before after : Tables} {event : DispatchEvent} {h : Nat}

theorem consistent (tells : event.Tells before after) (c : before.Consistent) :
    after.Consistent := by
  cases tells with
  | indexed wf absent => exact c.addRows wf absent
  | alreadyIndexed => exact c
  | dropped => exact c
  | undecodable => exact c

theorem contains_iff (tells : event.Tells before after) :
    after.contains h = true ↔ event.indexedHeight? = some h ∨ before.contains h = true := by
  cases tells with
  | indexed wf absent =>
    rw [Tables.contains_addRows, DispatchEvent.indexedHeight?, Option.some.injEq, eq_comm]
  | alreadyIndexed stored => simp [DispatchEvent.indexedHeight?]
  | dropped => simp [DispatchEvent.indexedHeight?]
  | undecodable => simp [DispatchEvent.indexedHeight?]

theorem absent (tells : event.Tells before after) (indexed : event.indexedHeight? = some h) :
    before.contains h = false := by
  cases tells with
  | indexed wf absent =>
    cases indexed
    exact absent
  | alreadyIndexed => contradiction
  | dropped => contradiction
  | undecodable => contradiction

/-- A height is reported as indexed exactly if it was not there before and is there after. -/
theorem indexed_iff (tells : event.Tells before after) :
    event.indexedHeight? = some h ↔ before.contains h = false ∧ after.contains h = true := by
  rw [tells.contains_iff]
  constructor
  · intro indexed
    exact ⟨tells.absent indexed, .inl indexed⟩
  · rintro ⟨absent, indexed | stored⟩
    · exact indexed
    · rw [absent] at stored
      contradiction

theorem stored (tells : event.Tells before after) (reported : event.storedHeight? = some h) :
    after.contains h = true := by
  cases tells with
  | indexed wf absent =>
    cases reported
    exact (before.contains_addRows _ _).mpr (.inl rfl)
  | alreadyIndexed stored =>
    cases reported
    exact stored
  | dropped => contradiction
  | undecodable => contradiction

/-- One that does not report its height as indexed leaves the tables alone. -/
theorem unchanged (tells : event.Tells before after) (other : event.indexedHeight? = none) :
    after = before := by
  cases tells with
  | indexed => contradiction
  | alreadyIndexed => rfl
  | dropped => rfl
  | undecodable => rfl

theorem heights_perm (tells : event.Tells before after) :
    (after.blocks.map (·.1)).Perm (event.indexedHeight?.toList ++ before.blocks.map (·.1)) := by
  cases tells with
  | indexed wf absent =>
    rw [Tables.blocks_addRows]
    exact (Tables.placeBlock_perm _ _ _).map (·.1)
  | alreadyIndexed => exact .refl _
  | dropped => exact .refl _
  | undecodable => exact .refl _

end Tells

theorem indexedHeight?_eq_some_iff {event : DispatchEvent} {h : Nat} :
    event.indexedHeight? = some h ↔ ∃ outcome, event = .indexed h outcome := by
  cases event <;> simp [indexedHeight?]

end DispatchEvent

namespace Database

variable {db : Database} {b : Block} {height : Nat}

theorem tells_store? (c : db.store.tables.Consistent) (own : b.height.toNat = height) :
    (db.store? height b).1.Tells db.store.tables (db.store? height b).2.store.tables := by
  rcases db.store?_cases c height b with ⟨same, event⟩ | ⟨rows, mapped, absent, event, added⟩
  · rw [same]
    rcases event with ⟨event, stored⟩ | ⟨cause, event⟩
    · rw [event]
      exact .alreadyIndexed (own ▸ stored)
    · rw [event]
      exact .dropped height cause
  · rw [event, added, ← own, ← Block.height_of_toRows mapped]
    exact .indexed (Block.wellFormed_of_toRows mapped) absent

theorem tells_dispatch (c : db.store.tables.Consistent) {source : Source}
    (faithful : source.Faithful) (height : Nat) :
    (db.dispatch source height).1.Tells db.store.tables
      (db.dispatch source height).2.store.tables := by
  unfold dispatch
  split
  next e _ => exact .dropped height e
  next b fetched => exact tells_store? c (faithful height b fetched)

theorem tells_deliver (c : db.store.tables.Consistent) (d : Delivery) :
    (db.deliver d).1.Tells db.store.tables (db.deliver d).2.store.tables := by
  unfold deliver
  split
  next => exact .undecodable d.sequence
  next b _ => exact tells_store? c rfl

end Database

/-- Work that ends in an event. -/
inductive Job where
  /-- The highest height of the queue is dispatched. -/
  | dispatch (source : Source)
  | deliver (d : Delivery)

namespace Job

def Faithful : Job → Prop
  | .dispatch source => source.Faithful
  | .deliver _ => True

/-- The event of a job, with the database and the queue that it leaves. A dispatch finds nothing to
do in an empty queue. -/
def perform? (db : Database) (q : Queue) : Job → Option (DispatchEvent × Database × Queue)
  | .dispatch source => db.dispatchNext? source q
  | .deliver d => some ((db.deliver d).1, (db.deliver d).2, q)

variable {db db' : Database} {q q' : Queue} {job : Job} {event : DispatchEvent}

theorem perform?_dispatch_iff {source : Source} :
    (Job.dispatch source).perform? db q = some (event, db', q') ↔
      ∃ height, q.toList = height :: q'.toList ∧ db.dispatch source height = (event, db') := by
  simp only [perform?, Database.dispatchNext?, Option.map_eq_some_iff, Prod.exists,
    Queue.pop?_eq_some_iff, Prod.mk.injEq]
  constructor
  · rintro ⟨height, queue, queued, rfl, rfl, rfl⟩
    exact ⟨height, queued, rfl⟩
  · rintro ⟨height, queued, dispatched⟩
    exact ⟨height, q', queued, by rw [dispatched], by rw [dispatched], rfl⟩

theorem perform?_eq_none_iff :
    job.perform? db q = none ↔ (∃ source, job = .dispatch source) ∧ q.toList = [] := by
  obtain ⟨heights, sorted⟩ := q
  cases job with
  | dispatch source => cases heights <;> simp [perform?, Database.dispatchNext?, Queue.pop?]
  | deliver d => simp [perform?]

/-- The event tells what became of the tables, and nothing comes into the queue. -/
theorem tells (c : db.store.tables.Consistent) (faithful : job.Faithful)
    (performed : job.perform? db q = some (event, db', q')) :
    event.Tells db.store.tables db'.store.tables ∧ q'.toList <:+ q.toList := by
  cases job with
  | dispatch source =>
    obtain ⟨height, queued, dispatched⟩ := perform?_dispatch_iff.mp performed
    have tells := Database.tells_dispatch c faithful height
    rw [dispatched] at tells
    rw [queued]
    exact ⟨tells, List.suffix_cons height _⟩
  | deliver d =>
    cases performed
    exact ⟨Database.tells_deliver c d, List.suffix_refl _⟩

end Job

/-- A store and a queue with the events of the jobs so far, the first one first. -/
structure Journal where
  db : Database
  queue : Queue
  events : List DispatchEvent

/-- What may happen between two jobs. -/
inductive Aside where
  | enqueue (heights : List Nat)
  | plantFailure (height position : Nat)
  | refuse (query : Query) (reason : Option String)

namespace Journal

def work? (j : Journal) (job : Job) : Option Journal :=
  (job.perform? j.db j.queue).map fun (event, db, queue) => ⟨db, queue, j.events ++ [event]⟩

def aside (j : Journal) : Aside → Journal
  | .enqueue heights => { j with queue := j.queue.pushAll heights }
  | .plantFailure height position =>
    { j with db := { j.db with store := j.db.store.plantFailure height position } }
  | .refuse query reason => { j with db := j.db.refuse query reason }

/-- What a run comes to by jobs in any order and number. -/
inductive Reachable (start : Journal) : Journal → Prop where
  | start : Reachable start start
  | work {j j' : Journal} {job : Job} : Reachable start j → job.Faithful → j.work? job = some j' →
      Reachable start j'
  | aside {j : Journal} (a : Aside) : Reachable start j → Reachable start (j.aside a)

/-- The heights that were reported as indexed, the first one first. -/
def indexed (j : Journal) : List Nat := j.events.filterMap DispatchEvent.indexedHeight?

/-- What the events of a run say of the store in which it began and of the one it came to. -/
structure Truthful (s : Store) (j : Journal) : Prop where
  consistent : j.db.store.tables.Consistent
  heights : j.db.store.heights.Perm (j.indexed ++ s.heights)
  stored : ∀ event ∈ j.events, ∀ h, event.storedHeight? = some h → j.db.store.contains h = true

variable {s : Store} {j j' later : Journal} {job : Job}

theorem truthful_start (c : j.db.store.tables.Consistent) (none : j.events = []) :
    Truthful j.db.store j where
  consistent := c
  heights := by rw [indexed, none]; exact .refl _
  stored event member := by
    rw [none] at member
    exact absurd member List.not_mem_nil

theorem Truthful.work (truthful : Truthful s j) (faithful : job.Faithful)
    (worked : j.work? job = some j') : Truthful s j' := by
  obtain ⟨⟨event, db, queue⟩, performed, rfl⟩ := Option.map_eq_some_iff.mp worked
  have tells := (Job.tells truthful.consistent faithful performed).1
  refine ⟨tells.consistent truthful.consistent, ?_, ?_⟩
  · have order : (event.indexedHeight?.toList ++ (j.indexed ++ s.heights)).Perm
        ((j.indexed ++ event.indexedHeight?.toList) ++ s.heights) := by
      rw [← List.append_assoc]
      exact List.perm_append_comm.append_right _
    have split : indexed ⟨db, queue, j.events ++ [event]⟩ =
        j.indexed ++ event.indexedHeight?.toList := by
      rw [indexed, List.filterMap_append, indexed]
      cases event <;> rfl
    rw [split]
    exact (tells.heights_perm.trans (truthful.heights.append_left _)).trans order
  · intro other member h reported
    rcases List.mem_append.mp member with member | member
    · have before := truthful.stored other member h reported
      exact tells.contains_iff.mpr (.inr before)
    · cases List.mem_singleton.mp member
      exact tells.stored reported

theorem Truthful.aside (truthful : Truthful s j) (a : Aside) : Truthful s (j.aside a) := by
  cases a with
  | enqueue heights => exact ⟨truthful.consistent, truthful.heights, truthful.stored⟩
  | plantFailure height position =>
    exact ⟨truthful.consistent, truthful.heights, truthful.stored⟩
  | refuse query reason => exact ⟨truthful.consistent, truthful.heights, truthful.stored⟩

theorem Truthful.reachable (truthful : Truthful s j) (reached : j.Reachable later) :
    Truthful s later := by
  induction reached with
  | start => exact truthful
  | work _ faithful worked ih => exact ih.work faithful worked
  | aside a _ ih => exact ih.aside a

theorem Truthful.indexed_nodup (truthful : Truthful s j) : j.indexed.Nodup := by
  have rising : j.db.store.heights.Pairwise (· < ·) :=
    List.pairwise_map.mpr truthful.consistent.sorted
  have distinct : (j.indexed ++ s.heights).Nodup :=
    truthful.heights.nodup_iff.mp (rising.imp Nat.ne_of_lt)
  exact (List.nodup_append.mp distinct).1

theorem Truthful.blockCount_eq (truthful : Truthful s j) :
    j.db.store.blockCount = s.blockCount + j.indexed.length := by
  have length := truthful.heights.length_eq
  simp only [Store.heights, List.length_append, List.length_map] at length
  rw [Store.blockCount, Store.blockCount, length, Nat.add_comm]

theorem Reachable.events_prefix (reached : j.Reachable later) : j.events <+: later.events := by
  induction reached with
  | start => exact List.prefix_rfl
  | work _ _ worked ih =>
    obtain ⟨performed, -, rfl⟩ := Option.map_eq_some_iff.mp worked
    exact ih.trans (List.prefix_append ..)
  | aside a _ ih => cases a <;> exact ih

theorem Reachable.foldlM (reached : j.Reachable j') {jobs : List Job}
    (faithful : ∀ job ∈ jobs, job.Faithful) (worked : jobs.foldlM work? j' = some later) :
    j.Reachable later := by
  induction jobs generalizing j' with
  | nil =>
    cases worked
    exact reached
  | cons job jobs ih =>
    obtain ⟨first, one, rest⟩ := Option.bind_eq_some_iff.mp worked
    exact ih (reached.work (faithful job List.mem_cons_self) one)
      (fun other member => faithful other (List.mem_cons_of_mem job member)) rest

/-- As many dispatches as there are heights in the queue report on each of them, the highest first,
and leave the queue empty. -/
theorem drain (j : Journal) {sources : List Source} (enough : sources.length = j.queue.size) :
    ∃ events later, (sources.map Job.dispatch).foldlM work? j = some later ∧
      later.queue.toList = [] ∧ later.events = j.events ++ events ∧
      events.map DispatchEvent.height? = j.queue.toList.map some := by
  induction sources generalizing j with
  | nil =>
    have empty : j.queue.toList = [] := List.eq_nil_of_length_eq_zero enough.symm
    exact ⟨[], j, rfl, empty, (List.append_nil _).symm, by rw [empty]; rfl⟩
  | cons source sources ih =>
    cases queued : j.queue.toList with
    | nil => simp [Queue.size, queued] at enough
    | cons height heights =>
      have rest : (j.queue.drop 1).toList = heights := by
        rw [Queue.toList_drop, queued]
        rfl
      let dispatched := j.db.dispatch source height
      have performed : (Job.dispatch source).perform? j.db j.queue =
          some (dispatched.1, dispatched.2, j.queue.drop 1) :=
        Job.perform?_dispatch_iff.mpr ⟨height, by rw [rest, queued], rfl⟩
      let next : Journal := ⟨dispatched.2, j.queue.drop 1, j.events ++ [dispatched.1]⟩
      have worked : j.work? (.dispatch source) = some next := by
        rw [work?, performed]
        rfl
      have enough' : sources.length = next.queue.size := by
        simp only [Queue.size, queued, List.length_cons] at enough
        rw [Queue.size, rest]
        omega
      obtain ⟨events, later, run, empty, reported, heights_eq⟩ := ih next enough'
      refine ⟨dispatched.1 :: events, later, ?_, empty, ?_, ?_⟩
      · rw [List.map_cons, List.foldlM_cons, worked]
        exact run
      · rw [reported, List.append_assoc]
        rfl
      · rw [List.map_cons, List.map_cons, heights_eq, rest, j.db.height?_dispatch source height]

/-- A run of dispatches and deliveries over a store with any history. Each of them ends in one
event, unless a dispatch finds the queue empty. A height is reported as indexed exactly if it came
into the store, one that is reported as already indexed was there, and every other event leaves the
tables alone; nothing comes into the queue. Over the whole run no height is indexed twice, as many
are indexed as there are more blocks, and what is reported as stored is in the store from then on.
A queue is empty after one dispatch for each of its heights, which are reported from the highest
down. -/
theorem events_truthful (policy : NumericPolicy) (ops : List Operation)
    (refusals : List (Query × String)) (q : Queue) :
    let s := (Store.empty policy).run ops
    let start : Journal := ⟨⟨s, refusals⟩, q, []⟩
    (∀ (j : Journal) (job : Job), start.Reachable j → job.Faithful →
      (job.perform? j.db j.queue = none ↔
        (∃ source, job = .dispatch source) ∧ j.queue.isEmpty = true) ∧
      ∀ (event : DispatchEvent) (db : Database) (queue : Queue),
        job.perform? j.db j.queue = some (event, db, queue) →
        (∀ h, (∃ outcome, event = .indexed h outcome) ↔
          j.db.store.contains h = false ∧ db.store.contains h = true) ∧
        (∀ h, event = .alreadyIndexed h →
          j.db.store.contains h = true ∧ db.store.tables = j.db.store.tables) ∧
        (∀ h cause, event = .dropped h cause → db.store.tables = j.db.store.tables) ∧
        (∀ n, event = .undecodable n → db.store.tables = j.db.store.tables) ∧
        queue.toList <:+ j.queue.toList) ∧
    (∀ j : Journal, start.Reachable j →
      j.indexed.Nodup ∧ j.db.store.blockCount = s.blockCount + j.indexed.length ∧
      ∀ later : Journal, j.Reachable later → ∀ event ∈ j.events, ∀ h, event.storedHeight? = some h →
        later.db.store.contains h = true) ∧
    ∀ (j : Journal) (sources : List Source), sources.length = j.queue.size →
      ∃ events later, (sources.map Job.dispatch).foldlM work? j = some later ∧
        later.queue.isEmpty = true ∧ later.events = j.events ++ events ∧
        events.length = j.queue.size ∧
        events.map DispatchEvent.height? = j.queue.toList.map some ∧
        j.queue.toList.Pairwise (· ≥ ·) := by
  intro s start
  have c : s.tables.Consistent := Store.consistent_run Tables.consistent_empty ops
  have truthful {j : Journal} (reached : start.Reachable j) : Truthful s j :=
    (truthful_start c rfl).reachable reached
  refine ⟨fun j job reached faithful => ⟨?_, fun event db queue performed => ?_⟩,
    fun j reached => ?_, fun j sources enough => ?_⟩
  · rw [Job.perform?_eq_none_iff, Queue.isEmpty_iff]
  · obtain ⟨tells, shorter⟩ := Job.tells (truthful reached).consistent faithful performed
    refine ⟨fun h => ?_, ?_, ?_, ?_, shorter⟩
    · rw [← DispatchEvent.indexedHeight?_eq_some_iff]
      exact tells.indexed_iff
    · rintro h rfl
      have same := tells.unchanged rfl
      have stored := tells.stored rfl
      rw [same] at stored
      exact ⟨stored, same⟩
    · rintro h cause rfl
      exact tells.unchanged rfl
    · rintro n rfl
      exact tells.unchanged rfl
  · refine ⟨(truthful reached).indexed_nodup, (truthful reached).blockCount_eq, ?_⟩
    intro later further event member h reported
    have still := (truthful reached).reachable further
    exact still.stored event (further.events_prefix.subset member) h reported
  · obtain ⟨events, later, run, empty, reported, heights⟩ := j.drain enough
    have length := congrArg List.length heights
    rw [List.length_map, List.length_map] at length
    exact ⟨events, later, run, Queue.isEmpty_iff.mpr empty, reported, length, heights,
      j.queue.sorted⟩

/-- A failure is planted at a height that is twice in the queue. The first dispatch drops it, the
second one stores its block. -/
theorem second_copy_indexed :
    let source := GapScanner.oneBlock Store.doubled
    let start : Journal :=
      ⟨⟨(Store.empty .lenient).run [.plantFailure 5 0], []⟩, Queue.empty.pushAll [5, 5], []⟩
    ∃ dropped later, start.work? (.dispatch source) = some dropped ∧
      dropped.db.store.tables = start.db.store.tables ∧
      dropped.work? (.dispatch source) = some later ∧ later.queue.isEmpty = true ∧
      later.events.map DispatchEvent.height? = [some 5, some 5] ∧
      later.indexed = [5] ∧ later.db.store.blockCount = 1 ∧
      later.db.store.contains 5 = true := by
  intro source start
  have faithful : (Job.dispatch source).Faithful := GapScanner.oneBlock_faithful Store.doubled
  obtain ⟨steps, runs, drains⟩ := events_truthful .lenient [.plantFailure 5 0] [] start.queue
  obtain ⟨events, later, run, empty, reported, -, heights, -⟩ :=
    drains start [source, source] (by decide)
  have reached : start.Reachable later := Reachable.start.foldlM (by simpa using faithful) run
  have indexed : later.indexed = [5] := by
    have computed : (([source, source].map Job.dispatch).foldlM work? start).map
        Journal.indexed = some [5] := by decide +kernel
    rw [run] at computed
    exact Option.some.inj computed
  rw [List.map_cons, List.foldlM_cons] at run
  obtain ⟨dropped, first, rest⟩ := Option.bind_eq_some_iff.mp run
  rw [List.map_cons, List.foldlM_cons] at rest
  obtain ⟨again, second, ⟨⟩⟩ := Option.bind_eq_some_iff.mp rest
  have failed : dropped.db.store.tables = start.db.store.tables := by
    obtain ⟨⟨event, db, queue⟩, performed, rfl⟩ := Option.map_eq_some_iff.mp first
    obtain ⟨-, each⟩ := steps start (.dispatch source) .start faithful
    obtain ⟨-, -, alone, -⟩ := each event db queue performed
    have cause : event = .dropped 5 (Store.injectedFailure 5 0) := by
      have computed : ((Job.dispatch source).perform? start.db start.queue).map (·.1) =
          some (.dropped 5 (Store.injectedFailure 5 0)) := by decide +kernel
      rw [performed] at computed
      exact Option.some.inj computed
    exact alone 5 _ cause
  obtain ⟨-, count, after⟩ := runs later reached
  have five : 5 ∈ later.indexed := by
    rw [indexed]
    exact List.mem_singleton.mpr rfl
  obtain ⟨event, member, five⟩ := List.mem_filterMap.mp five
  obtain ⟨outcome, rfl⟩ := DispatchEvent.indexedHeight?_eq_some_iff.mp five
  refine ⟨dropped, later, first, failed, second, empty, ?_, indexed, ?_,
    after later .start _ member 5 rfl⟩
  · rw [reported, List.map_append, heights]
    rfl
  · rw [count, indexed]
    rfl

end Journal

end BlockIndexer
