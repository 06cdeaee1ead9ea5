import BlockIndexer.Proofs.Replay.Deliver

/-! Runs of a replay over a store without refusals, given deliveries of rising sequences from the
resume point on. None of them is passed over as committed, so that the run takes them one after the
other until they end or the receiver is gone. -/

namespace BlockIndexer

/-- A receiver that is never found gone. -/
def Receiver.Stays (receiver : Receiver) : Prop := receiver.send? = some receiver

theorem Database.deliver_ofStore (s : Store) (d : Delivery) :
    ((ofStore s).deliver d).2 = ofStore (s.deliver d) := by
  unfold deliver Store.deliver
  cases Block.ofBytes? d.payload with
  | none => rfl
  | some b => exact store?_snd ..

namespace Replay

variable {r : Replay} {s : Store} {d : Delivery} {ds : List Delivery}

/-- What a committed sequence that rises to that of a delivery does not pass over. -/
theorem not_committedAfter {committed : Option Nat} {n : Nat} {event : DispatchEvent}
    (fresh : committed.any (n ≤ ·) = false) (later : d.sequence < n) :
    (committedAfter committed d.sequence event).any (n ≤ ·) = false := by
  unfold committedAfter
  split
  · exact decide_eq_false (Nat.not_le.mpr later)
  · exact fresh

/-- The run takes some of the deliveries, or all of them if the receiver stays. -/
theorem run_of_fresh (hdb : r.db = .ofStore s)
    (sorted : ds.Pairwise (·.sequence < ·.sequence)) (fresh : ∀ d ∈ ds, r.isCommitted d = false) :
    (∃ n, (r.run ds).db = .ofStore (s.deliverAll (ds.take n))) ∧
      (r.receiver.Stays → (r.run ds).db = .ofStore (s.deliverAll ds)) := by
  induction ds generalizing r s with
  | nil => exact ⟨⟨0, hdb⟩, fun _ => hdb⟩
  | cons d ds ih =>
    obtain ⟨above, sorted⟩ := List.pairwise_cons.mp sorted
    have hdb' : (r.db.deliver d).2 = .ofStore (s.deliver d) := by
      rw [hdb, Database.deliver_ofStore]
    rw [run, if_neg (by rw [fresh d List.mem_cons_self]; exact Bool.false_ne_true)]
    cases h : r.receiver.send? with
    | none =>
      refine ⟨⟨1, hdb'⟩, fun stays => ?_⟩
      rw [Receiver.Stays, h] at stays
      contradiction
    | some receiver =>
      have step := @ih ⟨(r.db.deliver d).2, r.report.count d.sequence (r.db.deliver d).1,
        committedAfter r.committed d.sequence (r.db.deliver d).1, receiver,
        r.events ++ [(r.db.deliver d).1]⟩ (s.deliver d) hdb' sorted fun e he =>
          not_committedAfter (fresh e (List.mem_cons_of_mem _ he)) (above e he)
      obtain ⟨⟨n, some⟩, all⟩ := step
      refine ⟨⟨n + 1, some⟩, fun stays => all ?_⟩
      rw [Receiver.Stays, h] at stays
      cases stays
      exact h

theorem not_isCommitted_start {db : Database} {receiver : Receiver} {resumedAt : Nat}
    (above : resumedAt ≤ d.sequence) : (start db receiver resumedAt).isCommitted d = false := by
  unfold isCommitted start
  by_cases h : resumedAt = 0
  · simp only [h, if_true, Option.any_none]
  · simp only [h, if_false, Option.any_some, decide_eq_false_iff_not]
    omega

end Replay

namespace Database

/-- A run over a log of rising sequences that it asks from its resume point on. -/
theorem replay_ofStore (s : Store) (start : Nat) (receiver : Receiver)
    (subscribe : Nat → List Delivery)
    (sorted : (subscribe (s.resumePoint start)).Pairwise (·.sequence < ·.sequence))
    (above : ∀ d ∈ subscribe (s.resumePoint start), s.resumePoint start ≤ d.sequence) :
    ∃ r, (ofStore s).replay (fun n => .ok (subscribe n)) start receiver = .ok r ∧
      (∃ n, r.db = .ofStore (s.deliverAll ((subscribe (s.resumePoint start)).take n))) ∧
      (receiver.Stays → r.db = .ofStore (s.deliverAll (subscribe (s.resumePoint start)))) :=
  ⟨(Replay.start (ofStore s) receiver (s.resumePoint start)).run
      (subscribe (s.resumePoint start)), rfl,
    Replay.run_of_fresh rfl sorted fun d hd => Replay.not_isCommitted_start (above d hd)⟩

end Database

end BlockIndexer
