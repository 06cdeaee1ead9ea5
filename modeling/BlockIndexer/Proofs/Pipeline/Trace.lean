import BlockIndexer.Pipeline.Basic
import BlockIndexer.Proofs.Dispatch
import BlockIndexer.Proofs.Queue
import BlockIndexer.Proofs.Store.Missing
import BlockIndexer.Proofs.Tip

/-! Runs of a pipeline in which the steps come in any order: the follower takes an answer, the
scanner looks at a window, the consumer dispatches the highest height. Between them failures may be
planted and queries may be refused, so that any insert may fail. A trace keeps what has been seen
of a run, and for each step a lemma says what it does. A run by itself makes some of these steps
only: it plants and refuses nothing, and it has one source and the node's answers in their order. -/

namespace BlockIndexer

/-- A pipeline with the windows that were scanned and the events of the dispatches so far. -/
structure Trace where
  pipeline : Pipeline
  scanned : List Window
  events : List DispatchEvent

inductive Move where
  | poll (current : Nat)
  | scan
  | dispatch (source : Source)
  | plantFailure (height position : Nat)
  | refuse (query : Query) (reason : Option String)

/-- A dispatch asks a faithful source, which may answer otherwise at the next dispatch. -/
def Move.Faithful : Move → Prop
  | .dispatch source => source.Faithful
  | .poll _ | .scan | .plantFailure _ _ | .refuse _ _ => True

/-- What each step keeps, if it can be made, holds after all of them. -/
theorem foldlM_keeps {f : σ → α → Option σ} {P : σ → Prop} {as : List α} {s s' : σ}
    (step : ∀ a ∈ as, ∀ s s', P s → f s a = some s' → P s') (start : P s)
    (h : as.foldlM f s = some s') : P s' := by
  induction as generalizing s with
  | nil =>
    rw [List.foldlM_nil] at h
    cases h
    exact start
  | cons a as ih =>
    simp only [List.foldlM_cons, Option.bind_eq_bind, Option.bind_eq_some_iff] at h
    obtain ⟨mid, first, rest⟩ := h
    have after : P mid := step a List.mem_cons_self s mid start first
    exact ih (fun a ha => step a (List.mem_cons_of_mem _ ha)) after rest

/-- Where a machine comes to by steps of one kind, in any order and number, and what these steps
were told, first to last. -/
inductive Leads (step? : σ → α → Option σ) (own : α → Prop) (told : α → List β) (origin : σ) :
    List β → σ → Prop where
  | start : Leads step? own told origin [] origin
  | next {bs : List β} {s s' : σ} {a : α} : Leads step? own told origin bs s → own a →
      step? s a = some s' → Leads step? own told origin (bs ++ told a) s'

/-- The steps of a run that has one source. -/
def Move.MadeFrom (source : Source) : Move → Prop
  | .poll _ | .scan => True
  | .dispatch asked => asked = source
  | .plantFailure _ _ | .refuse _ _ => False

/-- The tip that a step was told. -/
def Move.tips : Move → List Nat
  | .poll current => [current]
  | .scan | .dispatch _ | .plantFailure _ _ | .refuse _ _ => []

theorem Pipeline.poll_height (p : Pipeline) (current : Nat) :
    p.poll (.height current) =
      if current < p.follower.watermark then
        .ends (.failed (.tipRegressed p.follower.watermark current))
      else .goesOn { p with
        follower := ⟨current⟩
        queue := p.queue.pushAll (heightsAbove p.follower.watermark current) } := by
  simp only [poll, reduceCtorEq, if_false, Follower.poll, TipAnswer.toExcept]
  by_cases below : current < p.follower.watermark
  · simp only [if_pos below]
  · simp only [if_neg below]

namespace Trace

def start (db : Database) (scanner : GapScanner) (tip : Nat) : Trace :=
  ⟨.start db scanner tip, [], []⟩

/-- The heights that are stored at this point. -/
def Stored (t : Trace) (h : Nat) : Prop := t.pipeline.db.store.contains h = true

def setDatabase (t : Trace) (db : Database) : Trace :=
  { t with pipeline := { t.pipeline with db } }

/-- The run after a step, unless the step ends it or there is nothing to do. -/
def move? (t : Trace) : Move → Option Trace
  | .poll current =>
    match t.pipeline.poll (.height current) with
    | .goesOn pipeline => some { t with pipeline }
    | .ends _ => none
  | .scan =>
    match t.pipeline.windows.next?, t.pipeline.scan with
    | some (window, _), .goesOn pipeline =>
      some { t with pipeline, scanned := t.scanned ++ [window] }
    | _, _ => none
  | .dispatch source =>
    (t.pipeline.dispatch source).map fun (event, pipeline) =>
      { t with pipeline, events := t.events ++ [event] }
  | .plantFailure height position =>
    let db := t.pipeline.db
    some (t.setDatabase { db with store := db.store.plantFailure height position })
  | .refuse query reason => some (t.setDatabase (t.pipeline.db.refuse query reason))

/-- What a run comes to by steps in any order and number. -/
inductive Reachable (db : Database) (scanner : GapScanner) (tip : Nat) : Trace → Prop where
  | start : Reachable db scanner tip (start db scanner tip)
  | next {t t' : Trace} {move : Move} : Reachable db scanner tip t → move.Faithful →
      t.move? move = some t' → Reachable db scanner tip t'

def moves? (t : Trace) (moves : List Move) : Option Trace := moves.foldlM move? t

/-- What a run with one source comes to when its polls, which did not fail, were told these tips. -/
abbrev Polls (origin : Trace) (source : Source) : List Nat → Trace → Prop :=
  Leads move? (Move.MadeFrom source) Move.tips origin

variable {t t' : Trace} {db : Database} {scanner : GapScanner} {tip : Nat}

theorem Polls.reachable {source : Source} {tips : List Nat}
    (polls : (start db scanner tip).Polls source tips t) (faithful : source.Faithful) :
    Reachable db scanner tip t := by
  induction polls with
  | start => exact .start
  | @next _ _ _ move _ own step reached =>
    refine reached.next ?_ step
    cases move with
    | dispatch asked => exact (show asked = source from own) ▸ faithful
    | poll | scan | plantFailure | refuse => trivial

theorem Reachable.moves {moves : List Move} (reached : Reachable db scanner tip t)
    (faithful : ∀ move ∈ moves, move.Faithful) (h : t.moves? moves = some t') :
    Reachable db scanner tip t' :=
  foldlM_keeps (fun move hmove _ _ reached step => reached.next (faithful move hmove) step)
    reached h

/-- A poll that succeeds queues the heights above the watermark and raises it. -/
theorem move?_poll {current : Nat} (h : t.move? (.poll current) = some t') :
    t.pipeline.follower.watermark ≤ current ∧
      t' = { t with pipeline := { t.pipeline with
        follower := ⟨current⟩
        queue := t.pipeline.queue.pushAll
          (heightsAbove t.pipeline.follower.watermark current) } } := by
  rw [move?, Pipeline.poll_height] at h
  by_cases below : current < t.pipeline.follower.watermark
  · simp only [if_pos below] at h
    contradiction
  · simp only [if_neg below, Option.some.injEq] at h
    exact ⟨Nat.not_lt.mp below, h.symm⟩

/-- A scan that succeeds queues the missing heights of the next window. -/
theorem move?_scan (h : t.move? .scan = some t') :
    ∃ window windows, t.pipeline.windows.next? = some (window, windows) ∧
      t' = { t with
        pipeline := { t.pipeline with
          windows
          queue := t.pipeline.queue.pushAll (t.pipeline.db.store.missingHeights window.min
            window.max t.pipeline.scanner.windowSize) }
        scanned := t.scanned ++ [window] } := by
  simp only [move?, Pipeline.scan] at h
  cases hn : t.pipeline.windows.next? with
  | none => simp only [hn] at h; contradiction
  | some next =>
    obtain ⟨window, windows⟩ := next
    simp only [hn, GapScanner.scanWindow, Database.missingHeights, Database.ask] at h
    cases hr : t.pipeline.db.refusals.lookup .missingHeights with
    | some reason => simp only [hr] at h; contradiction
    | none =>
      simp only [hr, Option.some.injEq] at h
      exact ⟨window, windows, rfl, h.symm⟩

/-- A dispatch takes the head of the queue and reports one event. -/
theorem move?_dispatch {source : Source} (h : t.move? (.dispatch source) = some t') :
    ∃ height queue, t.pipeline.queue.toList = height :: queue.toList ∧
      t' = { t with
        pipeline := { t.pipeline with
          db := (t.pipeline.db.dispatch source height).2
          queue }
        events := t.events ++ [(t.pipeline.db.dispatch source height).1] } := by
  simp only [move?, Pipeline.dispatch, Database.dispatchNext?, Option.map_map,
    Option.map_eq_some_iff, Function.comp_def] at h
  obtain ⟨⟨height, queue⟩, hpop, rfl⟩ := h
  exact ⟨height, queue, Queue.pop?_eq_some_iff.mp hpop, rfl⟩

/-- A pass is over when there is no next window. -/
theorem scan_eq_done_iff (p : Pipeline) : p.scan = .ends .done ↔ p.windows.next? = none := by
  unfold Pipeline.scan
  cases p.windows.next? with
  | none => simp
  | some next =>
    obtain ⟨window, windows⟩ := next
    simp only [GapScanner.scanWindow, reduceCtorEq, iff_false]
    cases p.db.missingHeights window.min window.max p.scanner.windowSize <;> simp

end Trace

end BlockIndexer
