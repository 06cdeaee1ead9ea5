import BlockIndexer.Proofs.Rpc.Join

/-! Empty blocks that stand for missing heights. An empty block is only made when it is asked for
and the node itself says, in a fault that answers the request for the block, that it has none. In
any other case without the block the fetch fails, so that no real block is hidden. -/

namespace BlockIndexer.Rpc.Client

variable {f : BlockFetcher} {height : UInt64} {c c' : Client}

/-- The cases in which a fetch fails. -/
inductive Failing (f : BlockFetcher) (height : UInt64) (c : Client) : Prop where
  | fault {x : Exchange} {rest : List Reply} {fault : Fault} : c.Meets x rest →
      x.request = blockRequest c.nextId height → x.response.fault = some fault →
      (fault.Mentions "DB Not Found" → f.emptyBlocks = false) → Failing f height c
  | unfetched : c.Unfetched height → Failing f height c
  | misfit {x : Exchange} {b : NodeBlock} {ys : List Exchange} {receipts : List Receipt}
      {c' : Client} :
      c.Gathered height x b b.transactions ys receipts c' → ¬ b.Fits → Failing f height c

theorem block_of_failing (failing : c.Failing f height) :
    ∃ e c', c.block f height = (.error e, c') := by
  cases failing with
  | fault meets request faulty refused =>
    obtain ⟨e, failed⟩ := block_of_fault f meets request faulty refused
    exact ⟨e, _, failed⟩
  | unfetched unfetched => exact block_of_unfetched f unfetched
  | misfit gathered misfit =>
    obtain ⟨reason, failed⟩ := block_of_contradicted f (.misfit gathered misfit)
    exact ⟨_, _, failed⟩

theorem failing_of_block {e : Error} (failed : c.block f height = (.error e, c')) :
    c.Failing f height := by
  rcases c.fault_or_gathered_or_unfetched height with
    ⟨x, rest, fault, meets, request, faulty⟩ | ⟨x, b, ys, receipts, c'', gathered⟩ | unfetched
  · refine .fault meets request faulty fun mentions => ?_
    refine Bool.eq_false_iff.mpr fun empties => ?_
    rw [block_of_missing f meets request faulty mentions empties] at failed
    cases failed
  · refine .misfit gathered fun fits => ?_
    obtain ⟨block, built, -⟩ := toBlock_of_fits fits gathered.collected.length f.chainId
    rw [block_of_gathered f gathered, built] at failed
    cases failed
  · exact .unfetched unfetched

/-- A fetch gives a skipped block exactly when skipped blocks are wanted and the node answers the
request for the block with a fault that says it has none. It is the empty block of the height then,
and the node is asked for nothing else. In every other case without a block the fetch fails. -/
theorem block_skipped_iff (f : BlockFetcher) (height : UInt64) (c : Client) :
    (∀ block c', c.block f height = (.ok block, c') ∧ block.isSkipped = true ↔
      block = .empty f.chainId height ∧ f.emptyBlocks = true ∧
      ∃ x fault, c.Exchanged [x] c' ∧ c'.node.requests = c.node.requests ++ x.requests ∧
        x.request = blockRequest c.nextId height ∧ x.response.fault = some fault ∧
        fault.Mentions "DB Not Found") ∧
    ((∃ e c', c.block f height = (.error e, c')) ↔ c.Failing f height) := by
  refine ⟨fun block c' => ⟨fun ⟨ok, skipped⟩ => ?_, ?_⟩,
    fun ⟨e, c', failed⟩ => failing_of_block failed, block_of_failing⟩
  · rcases cases_of_block ok with
      ⟨rfl, empties, x, fault, exchanged, declared⟩ | ⟨x, b, ys, receipts, gathered, built⟩
    · have requests := exchanged.requests
      rw [List.flatMap_singleton] at requests
      exact ⟨rfl, empties, x, fault, exchanged, requests, declared⟩
    · obtain ⟨-, -, present, -⟩ := joined_of_toBlock built gathered.collected.length
      rw [skipped] at present
      contradiction
  · rintro ⟨rfl, empties, x, fault, exchanged, -, request, faulty, mentions⟩
    cases exchanged with
    | cons meets rest =>
      cases rest
      exact ⟨block_of_missing f meets request faulty mentions empties, rfl⟩

/-- A node that is not ready at first, and declares the height missing when it is asked again. -/
def declaredMissing : Client := connect ⟨1, 0, 0, 2⟩ (.scripted true
  [⟨503, "DB Not Found"⟩,
    .ofResponse ⟨"2.0", .number 1, none, some ⟨-32000, "DB Not Found: block", none⟩⟩])

/-- A node that only says the same while it is not ready. -/
def neverReady : Client :=
  connect ⟨1, 0, 0, 2⟩ (.scripted true [⟨503, "DB Not Found"⟩, ⟨503, "DB Not Found"⟩])

theorem missing_only_if_declared :
    (∃ c', declaredMissing.block ⟨5, true⟩ 7 = (.ok (.empty 5 7), c')) ∧
    ∃ e c', neverReady.block ⟨5, true⟩ 7 = (.error e, c') := by
  have fails : Reply.Fails ⟨503, "DB Not Found"⟩ := .inr (.inl (by decide))
  constructor
  · obtain ⟨x, request, -, meets, holds⟩ := declaredMissing.exists_meets (blockRequest 1 7)
      (List.forall_mem_singleton.mpr fails) ⟨"2.0", .number 1, none, some _⟩ rfl rfl (by decide)
      (fun response => response.fault.any fun fault => fault.mentions "DB Not Found")
      (by decide +kernel)
    obtain ⟨fault, faulty, mentions⟩ := (Option.any_eq_true _ _).mp holds
    exact ⟨_, (((block_skipped_iff ⟨5, true⟩ 7 declaredMissing).1 _ _).mpr ⟨rfl, rfl, x, fault,
      .cons meets .nil, rfl, request, faulty, Fault.mentions_iff.mp mentions⟩).1⟩
  · exact (block_skipped_iff ⟨5, true⟩ 7 neverReady).2.mpr (.unfetched (.unanswered (.inr
      (List.forall_mem_cons.mpr ⟨fails, List.forall_mem_singleton.mpr fails⟩))))

end BlockIndexer.Rpc.Client
