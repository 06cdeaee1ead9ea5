import BlockIndexer.Proofs.Replay.Sequence

/-! What a run asks for again after one that did not store all that it was given. A run resumes
after the greatest sequence that is stored, and not after the first one that is not. A delivery that
was dropped is asked for again if nothing after it was stored, and is lost otherwise. -/

namespace BlockIndexer.Database

open Replays

/-- A delivery whose block is not stored after a run is requested by the next run if and only if no
later delivery was stored. -/
theorem requested_again_iff (policy : NumericPolicy) (ops : List Operation) (start : Nat) :
    let s := (Store.empty policy).run ops
    ∀ (ds : List Delivery) (receiver : Receiver) (r : Replay),
      ds.Pairwise (·.sequence < ·.sequence) →
      (ofStore s).replay (fun _ => .ok ds) start receiver = .ok r →
      ∀ d ∈ ds, s.resumePoint start ≤ d.sequence →
      (∀ b, Block.ofBytes? d.payload = some b → r.db.store.contains b.height.toNat = false) →
      (r.db.store.resumePoint start ≤ d.sequence ↔
        ∀ e ∈ ds, d.sequence < e.sequence → e.sequence ∉ r.db.store.sequences) := by
  intro s ds receiver r rises ran d given above failed
  have c : s.tables.Consistent := Store.consistent_run Tables.consistent_empty ops
  obtain ⟨n, ds', asked, same, ran⟩ := replay_eq_ok.mp ran
  obtain rfl : s.resumePoint start = n := Except.ok.inj asked
  obtain rfl : ds = ds' := Except.ok.inj same
  obtain ⟨t, reached, replay, -, -, commits⟩ :=
    (show Reachable s start (begin s start receiver) from .begin receiver).run ds
  have rising := reached.rising c
  have distinct : (ds.map (·.sequence)).Nodup := List.pairwise_map.mpr (rises.imp Nat.ne_of_lt)
  obtain rfl : t.replay = r := replay.trans ran
  constructor
  · intro requested e _ later stored
    have passed := (Store.resumePoint_le_iff.mp requested).1 _ stored
    omega
  · intro none
    refine Store.resumePoint_le_iff.mpr ⟨fun m stored => ?_, fun nil => ?_⟩
    · rcases rising.mem_sequences c stored with before | ⟨commit, hcommit, rfl⟩
      · exact (Store.resumePoint_le_iff.mp above).1 m before
      · -- What the run stored is a delivery of its own, so not `d`, and none after `d`.
        have sound := rising.sound commit hcommit
        have delivered := (commits commit hcommit).resolve_left List.not_mem_nil
        have notLater : ¬ d.sequence < commit.delivery.sequence :=
          fun later => none _ delivered later stored
        have other : d.sequence ≠ commit.delivery.sequence := by
          intro same
          obtain rfl := List.inj_on_of_nodup_map distinct given delivered same
          obtain ⟨b, decoded, height⟩ := sound.decoded
          have missing := failed b decoded
          have present : t.replay.db.store.contains commit.height = true := sound.contains
          rw [height, present] at missing
          contradiction
        omega
    · have empty : s.sequences = [] := by
        refine List.eq_nil_iff_forall_not_mem.mpr fun m stored => ?_
        have later : m ∈ t.replay.db.store.sequences := rising.sequences_kept c stored
        rw [nil] at later
        exact List.not_mem_nil later
      exact (Store.resumePoint_le_iff.mp above).2 empty

/-- Both blocks, while the next insert of the transaction is made to fail. -/
def passingOver : Replay :=
  (Replay.start (.ofStore ((Store.empty .lenient).run [.plantFailure 5 0])) .staying 1).run
    [first, second]

theorem first_decodes : ∃ b rows, Block.ofBytes? first.payload = some b ∧ b.height.toNat = 5 ∧
    (b.withSequence first.sequence).toRows .lenient = .ok rows := by
  have decodes : (Block.ofBytes? first.payload).any (fun b => b.height.toNat == 5 &&
      ((b.withSequence first.sequence).toRows .lenient).toOption.isSome) = true := by
    decide +kernel
  obtain ⟨b, decoded, both⟩ := (Option.any_eq_true _ _).mp decodes
  obtain ⟨height, maps⟩ := Bool.and_eq_true_iff.mp both
  cases mapped : (b.withSequence first.sequence).toRows .lenient with
  | error e =>
    rw [mapped] at maps
    contradiction
  | ok rows => exact ⟨b, rows, decoded, beq_iff_eq.mp height, mapped⟩

/-- The first block is dropped, and the next run would resume after the second one. -/
theorem passingOver_drops : (∃ cause, .dropped 5 cause ∈ passingOver.events) ∧
    passingOver.db.store.contains 5 = false ∧ passingOver.db.store.resumePoint 1 = 3 := by
  have ends : (passingOver.events.filterMap DispatchEvent.droppedHeight? == [5] &&
      !passingOver.db.store.contains 5 && passingOver.db.store.resumePoint 1 == 3) = true := by
    decide +kernel
  simp only [Bool.and_eq_true, beq_iff_eq, Bool.not_eq_true'] at ends
  obtain ⟨⟨dropped, absent⟩, resumes⟩ := ends
  refine ⟨DispatchEvent.mem_filterMap_droppedHeight?.mp ?_, absent, resumes⟩
  rw [dropped]
  exact List.mem_singleton.mpr rfl

/-- The block that was dropped is lost, because a later one was stored. -/
theorem passingOver_loses :
    ∃ e ∈ [first, second], first.sequence < e.sequence ∧
      e.sequence ∈ passingOver.db.store.sequences := by
  obtain ⟨-, absent, resumes⟩ := passingOver_drops
  have requested := requested_again_iff .lenient [.plantFailure 5 0] 1 [first, second] .staying
    passingOver (by decide) rfl first List.mem_cons_self (by decide) fun b decoded => ?_
  · rw [resumes] at requested
    by_contra none
    refine absurd (requested.mpr fun e he later stored => none ⟨e, he, later, stored⟩) (by decide)
  · obtain ⟨b', -, decoded', height, -⟩ := first_decodes
    cases decoded.symm.trans decoded'
    rw [height]
    exact absent

/-- A block that is dropped for a failed insert is not always requested again. -/
theorem not_always_requested_again :
    ¬ ∀ (policy : NumericPolicy) (ops : List Operation) (start : Nat) (ds : List Delivery)
      (receiver : Receiver) (r : Replay),
      let s := (Store.empty policy).run ops
      ds.Pairwise (·.sequence < ·.sequence) →
      (ofStore s).replay (fun _ => .ok ds) start receiver = .ok r →
      ∀ d ∈ ds, s.resumePoint start ≤ d.sequence → ∀ b rows cause,
      Block.ofBytes? d.payload = some b →
      (b.withSequence d.sequence).toRows policy = .ok rows →
      .dropped b.height.toNat cause ∈ r.events →
      r.db.store.contains b.height.toNat = false →
      r.db.store.resumePoint start ≤ d.sequence := by
  intro always
  obtain ⟨⟨cause, dropped⟩, absent, resumes⟩ := passingOver_drops
  obtain ⟨b, rows, decoded, height, mapped⟩ := first_decodes
  have requested := always .lenient [.plantFailure 5 0] 1 [first, second] .staying passingOver
    (by decide) rfl first List.mem_cons_self (by decide) b rows cause decoded mapped
    (height ▸ dropped) (height ▸ absent)
  rw [resumes] at requested
  exact absurd requested (by decide)

end BlockIndexer.Database
