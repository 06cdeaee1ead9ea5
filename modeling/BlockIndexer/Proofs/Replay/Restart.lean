import BlockIndexer.Proofs.Feed.Framing
import BlockIndexer.Proofs.Replay.Run
import BlockIndexer.Proofs.Replay.Sequence

/-! Replays of a file that are interrupted and started again. However many runs were cut short, and
however much of the file each of them saw, the store is always as a single run would have left it
after some of the deliveries. The next run resumes among those; what it takes again is settled, so
that a run which is not cut short brings the store where a single run would have. -/

namespace BlockIndexer

/-- Of rising deliveries, those above one of them are those after it. -/
theorem filter_above_eq_drop {ds : List Delivery} (sorted : ds.Pairwise (·.sequence < ·.sequence))
    {i : Nat} (hi : i < ds.length) :
    ds.filter (ds[i].sequence + 1 ≤ ·.sequence) = ds.drop (i + 1) := by
  induction ds generalizing i with
  | nil => exact absurd hi (Nat.not_lt_zero i)
  | cons d ds ih =>
    obtain ⟨above, sorted⟩ := List.pairwise_cons.mp sorted
    cases i with
    | zero =>
      rw [List.getElem_cons_zero, List.filter_cons_of_neg (by simp)]
      exact List.filter_eq_self.mpr fun e he => decide_eq_true (above e he)
    | succ i =>
      have hlt := above _ (List.getElem_mem (Nat.lt_of_succ_lt_succ hi))
      rw [List.getElem_cons_succ, List.filter_cons_of_neg (by simp; omega)]
      exact ih sorted (Nat.lt_of_succ_lt_succ hi)

namespace Store

variable {s : Store} {ds : List Delivery} {n k m : Nat}

/-- Deliveries that are taken again, from one that was taken on, do not show. -/
theorem deliverAll_take_drop (clean : s.failures = []) (ds : List Delivery) (hle : n ≤ k)
    (m : Nat) :
    (s.deliverAll (ds.take k)).deliverAll ((ds.drop n).take m) =
      s.deliverAll (ds.take (max k (n + m))) := by
  have again : ∀ d ∈ ((ds.drop n).take m).take (k - n), (s.deliverAll (ds.take k)).Settled d := by
    intro d hd
    refine settled_deliverAll clean ?_
    rw [List.take_take, Nat.min_comm, ← List.take_take, List.take_drop,
      Nat.add_sub_cancel' hle] at hd
    exact List.mem_of_mem_drop (List.mem_of_mem_take hd)
  have new : ((ds.drop n).take m).drop (k - n) = (ds.drop k).take (n + m - k) := by
    rw [List.drop_take, List.drop_drop, Nat.add_sub_cancel' hle]
    congr 1
    omega
  rw [← List.take_append_drop (k - n) ((ds.drop n).take m), deliverAll_append,
    deliverAll_of_settled again, new, ← deliverAll_append, ← List.take_add]
  congr 2
  omega

/-- The store after some of the deliveries that a single run over a file takes. -/
def during (s : Store) (start : Nat) (bytes : List UInt8) (k : Nat) : Store :=
  s.deliverAll ((Feed.deliveries (s.resumePoint start) bytes).take k)

/-- During a run, another one resumes at a delivery that was taken or at the next one. -/
theorem exists_deliveries_eq_drop (s : Store) (start : Nat) (bytes : List UInt8) (k : Nat) :
    ∃ n ≤ k, Feed.deliveries ((s.during start bytes k).resumePoint start) bytes =
      (Feed.deliveries (s.resumePoint start) bytes).drop n := by
  have sorted := Feed.deliveries_sorted (s.resumePoint start) bytes
  rcases s.resumePoint_deliverAll start
    ((Feed.deliveries (s.resumePoint start) bytes).take k) with same | ⟨d, hd, next⟩
  · exact ⟨0, Nat.zero_le k, by rw [during, same, List.drop_zero]⟩
  · have hle := Feed.le_sequence_of_mem_deliveries (List.mem_of_mem_take hd)
    obtain ⟨i, hi, rfl⟩ := List.mem_take_iff_getElem.mp hd
    have hik : i < k ∧ i < (Feed.deliveries (s.resumePoint start) bytes).length := by omega
    refine ⟨i + 1, hik.1, ?_⟩
    rw [during, next, Feed.deliveries_of_le (Nat.le_succ_of_le hle),
      filter_above_eq_drop sorted hik.2]

end Store

/-- A run that is cut short. -/
structure Interruption where
  /-- What the run sees of the file. -/
  seen : List UInt8
  /-- The deliveries that it takes before it is cut short, if its receiver stays for them. -/
  count : Nat
  receiver : Receiver

namespace Interruption

/-- What the run is given of the log. -/
def log (i : Interruption) (start : Nat) : List Delivery :=
  (Feed.deliveries start i.seen).take i.count

/-- What the run sees is a beginning of the file, which ends with a line or in one that is not yet
a block. -/
def Of (bytes : List UInt8) (i : Interruption) : Prop :=
  i.seen <+: bytes ∧
    (Feed.unfinishedLine i.seen = [] ∨ Block.ofBytes? (Feed.unfinishedLine i.seen) = none)

variable {i : Interruption} {bytes : List UInt8}

/-- Whatever the run takes leaves the store as some deliveries of the whole file do. -/
theorem Of.deliverAll (of : i.Of bytes) (s : Store) (start n : Nat) :
    ∃ m, s.deliverAll ((i.log start).take n) =
      s.deliverAll ((Feed.deliveries start bytes).take m) := by
  obtain ⟨whole, rest, eq, begins, unfinished⟩ := Feed.deliveries_of_beginning start of.1
  have settled (t : Store) (m : Nat) : t.deliverAll (rest.take m) = t := by
    refine Store.deliverAll_of_settled fun d hd => Store.settled_of_undecodable ?_
    obtain ⟨payload, nonempty⟩ := unfinished d (List.mem_of_mem_take hd)
    rw [payload]
    exact of.2.resolve_left nonempty
  have first (m : Nat) :
      whole.take m = (Feed.deliveries start bytes).take (min m whole.length) := by
    rw [← List.take_take, ← List.prefix_iff_eq_take.mp begins]
  exact ⟨_, by rw [log, eq, List.take_take, List.take_append, Store.deliverAll_append, settled,
    first]⟩

end Interruption

namespace Database

/-- The database after runs that were cut short, one after the other. -/
def interrupted (db : Database) (start : Nat) (is : List Interruption) : Except Error Database :=
  is.foldlM (fun db i => (db.replay (fun n => .ok (i.log n)) start i.receiver).map (·.db)) db

/-- A run over what there is of a file, to the end. -/
def replayFile (db : Database) (start : Nat) (receiver : Receiver) (bytes : List UInt8) :
    Except Error Replay :=
  db.replay (fun n => .ok (Feed.deliveries n bytes)) start receiver

variable {s : Store} {start : Nat} {bytes : List UInt8} {i : Interruption}
  {is : List Interruption} {receiver : Receiver}

/-- An interrupted run leaves the store as it is at some point of a single run. -/
theorem replay_interruption (clean : s.failures = []) (of : i.Of bytes) (start k : Nat) :
    ∃ r k', (ofStore (s.during start bytes k)).replay (fun n => .ok (i.log n)) start i.receiver =
      .ok r ∧ r.db = .ofStore (s.during start bytes k') := by
  obtain ⟨n, hn, drop⟩ := s.exists_deliveries_eq_drop start bytes k
  obtain ⟨r, eq, ⟨taken, hdb⟩, -⟩ :=
    replay_ofStore (s.during start bytes k) start i.receiver i.log
      ((Feed.deliveries_sorted _ i.seen).sublist (List.take_sublist ..))
      (fun d hd => Feed.le_sequence_of_mem_deliveries (List.mem_of_mem_take hd))
  obtain ⟨m, hm⟩ := of.deliverAll (s.during start bytes k)
    ((s.during start bytes k).resumePoint start) taken
  refine ⟨r, max k (n + m), eq, ?_⟩
  rw [hdb, hm, drop, Store.during, Store.deliverAll_take_drop clean _ hn m, Store.during]

theorem interrupted_cons {db : Database} {r : Replay}
    (h : db.replay (fun n => .ok (i.log n)) start i.receiver = .ok r) :
    db.interrupted start (i :: is) = r.db.interrupted start is := by
  rw [interrupted, List.foldlM_cons, h]
  rfl

theorem interrupted_during (clean : s.failures = []) (of : ∀ i ∈ is, i.Of bytes)
    (start k : Nat) :
    ∃ k', (ofStore (s.during start bytes k)).interrupted start is =
      .ok (.ofStore (s.during start bytes k')) := by
  induction is generalizing k with
  | nil => exact ⟨k, rfl⟩
  | cons i is ih =>
    obtain ⟨r, mid, eq, hdb⟩ := replay_interruption clean (of i List.mem_cons_self) start k
    obtain ⟨k', rest⟩ := ih (fun i hi => of i (List.mem_cons_of_mem _ hi)) mid
    exact ⟨k', by rw [interrupted_cons eq, hdb, rest]⟩

/-- A run to the end completes what a single run has begun. -/
theorem replayFile_during (clean : s.failures = []) (stays : receiver.Stays) (start k : Nat)
    (bytes : List UInt8) :
    ∃ r, (ofStore (s.during start bytes k)).replayFile start receiver bytes = .ok r ∧
      r.db = .ofStore (s.deliverAll (Feed.deliveries (s.resumePoint start) bytes)) := by
  obtain ⟨n, hn, drop⟩ := s.exists_deliveries_eq_drop start bytes k
  obtain ⟨r, eq, -, all⟩ := replay_ofStore (s.during start bytes k) start receiver
    (fun n => Feed.deliveries n bytes) (Feed.deliveries_sorted _ bytes)
    (fun d hd => Feed.le_sequence_of_mem_deliveries hd)
  refine ⟨r, eq, ?_⟩
  rw [all stays, drop, ← List.take_length (l := List.drop n _), Store.during,
    Store.deliverAll_take_drop clean _ hn, List.take_of_length_le]
  rw [List.length_drop]
  omega

/-- However many runs over a file are cut short, a run to the end after them leaves the database as
a single run over the file does: as the deliveries do that a pump reads in the file from where the
first run resumes. Each of the runs is given what a pump reads in the file as it is by then. -/
theorem replay_after_interruptions (clean : s.failures = []) (of : ∀ i ∈ is, i.Of bytes)
    (start : Nat) {receiver receiver' : Receiver} (stays : receiver.Stays)
    (stays' : receiver'.Stays) :
    let pumped (n : Nat) (seen : List UInt8) := (Feed.Pump.subscribe false n).run seen
    (∀ n, (∀ i ∈ is, i.log n = (pumped n i.seen).1.take i.count) ∧
      pumped n bytes = (Feed.deliveries n bytes, none)) ∧
    ∃ cut resumed single, (ofStore s).interrupted start is = .ok cut ∧
      cut.replayFile start receiver bytes = .ok resumed ∧
      (ofStore s).replayFile start receiver' bytes = .ok single ∧ resumed.db = single.db ∧
      single.db = .ofStore (s.deliverAll (pumped (s.resumePoint start) bytes).1) := by
  intro pumped
  have read (n : Nat) (seen : List UInt8) : pumped n seen = (Feed.deliveries n seen, none) :=
    Feed.Pump.run_subscribe n seen
  obtain ⟨k, cut⟩ := interrupted_during clean of start 0
  obtain ⟨resumed, toEnd, hresumed⟩ :=
    replayFile_during clean stays start k bytes
  obtain ⟨single, once, hsingle⟩ :=
    replayFile_during clean stays' start 0 bytes
  refine ⟨fun n => ⟨fun i _ => ?_, read n bytes⟩, _, resumed, single, cut, toEnd, once,
    hresumed.trans hsingle.symm, ?_⟩
  · rw [read, Interruption.log]
  · rw [read]
    exact hsingle

/-- Two lines, each a block, of which the second has no end yet. -/
def twoLines : List UInt8 :=
  Replays.zeroBlock 5 [] ++ [Feed.newline] ++ Replays.zeroBlock 6 []

theorem replay_after_half_a_line :
    let cuts : List Interruption :=
      [⟨twoLines.take 600, 1, .absent⟩, ⟨twoLines.take 600, 2, .leaving 1⟩]
    ∃ cut resumed single,
      (ofStore (.empty .lenient)).interrupted 1 cuts = .ok cut ∧
      cut.replayFile 1 .absent twoLines = .ok resumed ∧
      (ofStore (.empty .lenient)).replayFile 1 .staying twoLines = .ok single ∧
      resumed.db = single.db ∧
      single.db.store.tables.blocks.map (fun b => (b.1, b.2.sequence)) =
        [(5, some 1), (6, some 2)] := by
  intro cuts
  have clean : (Store.empty .lenient).failures = [] := rfl
  have undecodable : Block.ofBytes? (Feed.unfinishedLine (twoLines.take 600)) = none := by
    decide +kernel
  have of : ∀ i ∈ cuts, i.Of twoLines := by
    intro i hi
    simp only [cuts, List.mem_cons, List.not_mem_nil, or_false] at hi
    rcases hi with rfl | rfl
    · exact ⟨List.take_prefix .., .inr undecodable⟩
    · exact ⟨List.take_prefix .., .inr undecodable⟩
  have absent : Receiver.Stays .absent := rfl
  have staying : Receiver.Stays .staying := rfl
  obtain ⟨read, cut, resumed, single, interrupted, toEnd, once, same, all⟩ :=
    replay_after_interruptions clean of 1 absent staying
  refine ⟨cut, resumed, single, interrupted, toEnd, once, same, ?_⟩
  have deliveries := congrArg Prod.fst (read 1).2
  have resumes : (Store.empty .lenient).resumePoint 1 = 1 := rfl
  rw [resumes, deliveries] at all
  rw [all]
  decide +kernel

end Database

end BlockIndexer
