import BlockIndexer.Proofs.Queue
import BlockIndexer.Tip

/-! Polls of the tip, one after the other, some of which fail. A failed poll leaves no trace, and
one that succeeds goes on where the last such poll ended, so that the heights put into the queue
are those above the start, each in its turn. A follower that keeps its watermark in 64 bits comes
to the same, as long as one can be added to the watermark. -/

namespace BlockIndexer

theorem mem_heightsAbove {low high h : Nat} : h ∈ heightsAbove low high ↔ low < h ∧ h ≤ high := by
  rw [heightsAbove, List.mem_range'_1]
  omega

theorem heightsAbove_append {low mid high : Nat} (hlow : low ≤ mid) (hhigh : mid ≤ high) :
    heightsAbove low mid ++ heightsAbove mid high = heightsAbove low high := by
  simp only [heightsAbove]
  rw [show mid + 1 = low + 1 + 1 * (mid - low) by omega, List.range'_append]
  congr 1
  omega

theorem heightsAbove_self (low : Nat) : heightsAbove low low = [] := by
  rw [heightsAbove, Nat.sub_self, List.range'_zero]

namespace Follower

/-- The height that the node answered, if the poll took it. -/
def accepted? : Except Error Nat × Except Error (List Nat) → Option Nat
  | (.ok height, .ok _) => some height
  | _ => none

/-- The heights that polls took from the answers. -/
def accepted (answers : List (Except Error Nat)) (results : List (Except Error (List Nat))) :
    List Nat :=
  (answers.zip results).filterMap accepted?

/-- The heights that polls put into the queue, the first ones first. -/
def pushed (results : List (Except Error (List Nat))) : List Nat :=
  (results.filterMap Except.toOption).flatten

variable {f : Follower} {q : Queue} {answer : Except Error Nat}
  {answers more : List (Except Error Nat)}

/-- A poll fails and changes nothing, or takes the height and puts what lies above the watermark up
to it into the queue. -/
theorem poll_cases (f : Follower) (q : Queue) (answer : Except Error Nat) :
    (∃ e, f.poll q answer = (.error e, f, q) ∧
      ((∃ cause, answer = .error cause) ∨ ∃ h < f.watermark, answer = .ok h)) ∨
    ∃ h, answer = .ok h ∧ f.watermark ≤ h ∧
      f.poll q answer =
        (.ok (heightsAbove f.watermark h), ⟨h⟩, q.pushAll (heightsAbove f.watermark h)) := by
  cases answer with
  | error e => exact .inl ⟨e, rfl, .inl ⟨e, rfl⟩⟩
  | ok h =>
    by_cases below : h < f.watermark
    · exact .inl ⟨_, by rw [poll, if_pos below], .inr ⟨h, below, rfl⟩⟩
    · exact .inr ⟨h, rfl, Nat.not_lt.mp below, by rw [poll, if_neg below]⟩

theorem poll_fails_iff : (∃ e, (f.poll q answer).1 = .error e) ↔
    (∃ e, answer = .error e) ∨ ∃ h < f.watermark, answer = .ok h := by
  rcases f.poll_cases q answer with ⟨e, polled, reason⟩ | ⟨h, rfl, le, polled⟩
  · rw [polled]
    exact ⟨fun _ => reason, fun _ => ⟨e, rfl⟩⟩
  · rw [polled]
    constructor
    · rintro ⟨e, failed⟩
      contradiction
    · rintro (⟨e, failed⟩ | ⟨h', below, eq⟩)
      · contradiction
      · cases eq
        omega

theorem poll_of_fails (fails : ∃ e, (f.poll q answer).1 = .error e) :
    (f.poll q answer).2 = (f, q) := by
  rcases f.poll_cases q answer with ⟨e, polled, -⟩ | ⟨h, -, -, polled⟩
  · rw [polled]
  · rw [polled] at fails
    obtain ⟨e, failed⟩ := fails
    contradiction

theorem pollAll_append (f : Follower) (q : Queue) (answers more : List (Except Error Nat)) :
    let before := f.pollAll q answers
    let after := before.2.1.pollAll before.2.2 more
    f.pollAll q (answers ++ more) = (before.1 ++ after.1, after.2) := by
  induction answers generalizing f q with
  | nil => rfl
  | cons answer answers ih =>
    simp only [List.cons_append, pollAll, ih]

theorem length_pollAll (f : Follower) (q : Queue) (answers : List (Except Error Nat)) :
    (f.pollAll q answers).1.length = answers.length := by
  induction answers generalizing f q with
  | nil => rfl
  | cons answer answers ih => rw [pollAll, List.length_cons, List.length_cons, ih]

theorem pollAll_take (f : Follower) (q : Queue) (answers : List (Except Error Nat)) (n : Nat) :
    (f.pollAll q (answers.take n)).1 = (f.pollAll q answers).1.take n := by
  have split := f.pollAll_append q (answers.take n) (answers.drop n)
  rw [List.take_append_drop] at split
  rw [split]
  by_cases short : n ≤ answers.length
  · have length : (f.pollAll q (answers.take n)).1.length = n := by
      rw [length_pollAll, List.length_take, Nat.min_eq_left short]
    exact (List.take_left' length).symm
  · have all : answers.take n = answers := List.take_of_length_le (by omega)
    have none : answers.drop n = [] := List.drop_of_length_le (by omega)
    rw [all, none, pollAll, List.append_nil, List.take_of_length_le]
    rw [length_pollAll]
    omega

/-- After any polls, what was put into the queue are the heights from the first watermark to the
last one, and the last one is the greatest of the first and those that were taken. -/
theorem pollAll_eq (f : Follower) (q : Queue) (answers : List (Except Error Nat)) :
    ∃ results watermark,
      f.pollAll q answers = (results, ⟨watermark⟩, q.pushAll (pushed results)) ∧
      f.watermark ≤ watermark ∧
      watermark = (accepted answers results).foldl max f.watermark ∧
      pushed results = heightsAbove f.watermark watermark := by
  induction answers generalizing f q with
  | nil => exact ⟨[], f.watermark, rfl, Nat.le_refl _, rfl, (heightsAbove_self _).symm⟩
  | cons answer answers ih =>
    rcases f.poll_cases q answer with ⟨e, polled, -⟩ | ⟨h, rfl, le, polled⟩
    · obtain ⟨results, watermark, rest, above, greatest, all⟩ := ih f q
      refine ⟨.error e :: results, watermark, ?_, above, ?_, all⟩
      · rw [pollAll, polled]
        dsimp only
        rw [rest]
        rfl
      · cases answer <;> exact greatest
    · obtain ⟨results, watermark, rest, above, greatest, all⟩ :=
        ih ⟨h⟩ (q.pushAll (heightsAbove f.watermark h))
      have first : pushed (.ok (heightsAbove f.watermark h) :: results) =
          heightsAbove f.watermark h ++ pushed results := rfl
      refine ⟨.ok (heightsAbove f.watermark h) :: results, watermark, ?_, Nat.le_trans le above,
        ?_, ?_⟩
      · rw [pollAll, polled, first, ← Queue.pushAll_append]
        dsimp only
        rw [rest]
      · have taken : accepted (.ok h :: answers) (.ok (heightsAbove f.watermark h) :: results) =
            h :: accepted answers results := rfl
        rw [taken, List.foldl_cons, Nat.max_eq_right le]
        exact greatest
      · rw [first, all]
        exact heightsAbove_append le above

/-- A run takes the polls before the first one that fails, and ends with this one. -/
theorem run_of_fails {before : List (List Nat)} {e : Error}
    {after : List (Except Error (List Nat))}
    (h : (f.pollAll q answers).1 = before.map .ok ++ .error e :: after) :
    f.run q answers = (some e, (f.pollAll q (answers.take before.length)).2) := by
  induction answers generalizing f q before with
  | nil => simp [pollAll] at h
  | cons answer answers ih =>
    rcases f.poll_cases q answer with ⟨e', polled, -⟩ | ⟨height, -, -, polled⟩
    · cases before with
      | nil =>
        simp only [pollAll, polled, List.map_nil, List.nil_append, List.cons.injEq,
          Except.error.injEq] at h
        rw [run, polled, h.1]
        rfl
      | cons heights before => simp [pollAll, polled] at h
    · cases before with
      | nil => simp [pollAll, polled] at h
      | cons heights before =>
        simp only [pollAll, polled, List.map_cons, List.cons_append, List.cons.injEq] at h
        rw [run, polled, List.length_cons, List.take_succ_cons, pollAll, polled]
        exact ih h.2

theorem run_of_succeeds (h : ∀ result ∈ (f.pollAll q answers).1, ∃ heights, result = .ok heights) :
    f.run q answers = (none, (f.pollAll q answers).2) := by
  induction answers generalizing f q with
  | nil => rfl
  | cons answer answers ih =>
    rcases f.poll_cases q answer with ⟨e, polled, -⟩ | ⟨height, -, -, polled⟩
    · obtain ⟨heights, eq⟩ := h (.error e) (by simp [pollAll, polled])
      contradiction
    · simp only [pollAll, polled, List.mem_cons, forall_eq_or_imp] at h
      rw [run, polled, pollAll, polled]
      exact ih h.2

end Follower

/-! ### Polls with words -/

/-- The sum of two words, if there is room for it in one. -/
def sum? (a b : UInt64) : Option UInt64 :=
  if a.toNat + b.toNat < UInt64.size then some (a + b) else none

theorem sum?_of_lt {a b : UInt64} (room : a.toNat + b.toNat < UInt64.size) :
    ∃ s, sum? a b = some s ∧ s.toNat = a.toNat + b.toNat :=
  ⟨a + b, if_pos room, by rw [UInt64.toNat_add, Nat.mod_eq_of_lt room]⟩

/-- A follower with a word for its watermark. -/
structure WordFollower where
  watermark : UInt64
  deriving DecidableEq, Repr

namespace WordFollower

def toFollower (f : WordFollower) : Follower := ⟨f.watermark.toNat⟩

/-- Takes the node's answer. The heights are those from the word after the watermark to the answer;
there is no step if the watermark is the greatest word. -/
def poll? (f : WordFollower) (q : Queue) (answer : Except Error UInt64) :
    Option (Except Error (List Nat) × WordFollower × Queue) :=
  match answer with
  | .error e => some (.error e, f, q)
  | .ok current =>
    if current < f.watermark then
      some (.error (.tipRegressed f.watermark.toNat current.toNat), f, q)
    else (sum? f.watermark 1).map fun first =>
      let heights := List.range' first.toNat (current.toNat + 1 - first.toNat)
      (.ok heights, ⟨current⟩, q.pushAll heights)

def pollAll? (f : WordFollower) (q : Queue) :
    List (Except Error UInt64) → Option (List (Except Error (List Nat)) × WordFollower × Queue)
  | [] => some ([], f, q)
  | answer :: answers =>
    (f.poll? q answer).bind fun (result, f, q) =>
      (pollAll? f q answers).map fun (results, after) => (result :: results, after)

variable {f : WordFollower} {q : Queue}

/-- A poll that has room for the next height is the poll over numbers. -/
theorem poll?_of_room (room : f.watermark.toNat + 1 < UInt64.size)
    (answer : Except Error UInt64) :
    ∃ result f' q', f.poll? q answer = some (result, f', q') ∧
      f.toFollower.poll q (answer.map UInt64.toNat) = (result, f'.toFollower, q') ∧
      (f' = f ∨ answer = .ok f'.watermark) := by
  cases answer with
  | error e => exact ⟨_, _, _, rfl, rfl, .inl rfl⟩
  | ok current =>
    obtain ⟨first, sum, value⟩ := sum?_of_lt (a := f.watermark) (b := 1) room
    have one : (1 : UInt64).toNat = 1 := rfl
    by_cases below : current < f.watermark
    · have below' : current.toNat < f.watermark.toNat := UInt64.lt_iff_toNat_lt.mp below
      exact ⟨_, _, _, if_pos below, if_pos below', .inl rfl⟩
    · have above : ¬ current.toNat < f.watermark.toNat :=
        fun lt => below (UInt64.lt_iff_toNat_lt.mpr lt)
      have heights : List.range' first.toNat (current.toNat + 1 - first.toNat) =
          heightsAbove f.watermark.toNat current.toNat := by
        rw [heightsAbove, value, one, Nat.add_sub_add_right]
      refine ⟨_, ⟨current⟩, _, ?_, if_neg above, .inr rfl⟩
      simp only [poll?, if_neg below, sum, Option.map_some, heights, toFollower]

/-- There is no step where the watermark is the greatest word, unless the node fails or answers a
height below it. -/
theorem poll?_eq_none_iff {answer : Except Error UInt64} : f.poll? q answer = none ↔
    f.watermark.toNat + 1 = UInt64.size ∧ answer = .ok f.watermark := by
  have fits := f.watermark.toNat_lt_size
  constructor
  · intro stuck
    by_cases room : f.watermark.toNat + 1 < UInt64.size
    · obtain ⟨_, _, _, step, -⟩ := f.poll?_of_room (q := q) room answer
      rw [step] at stuck
      contradiction
    · cases answer with
      | error e => cases stuck
      | ok current =>
        have above : ¬ current < f.watermark := by
          intro below
          rw [poll?, if_pos below] at stuck
          contradiction
        have le : f.watermark.toNat ≤ current.toNat :=
          Nat.not_lt.mp fun lt => above (UInt64.lt_iff_toNat_lt.mpr lt)
        have fits' := current.toNat_lt_size
        have eq : current = f.watermark := UInt64.toNat_inj.mp (by omega)
        exact ⟨by omega, by rw [eq]⟩
  · rintro ⟨greatest, rfl⟩
    have full : sum? f.watermark 1 = none := if_neg (Nat.not_lt.mpr (Nat.le_of_eq greatest.symm))
    have above : ¬ f.watermark < f.watermark := UInt64.lt_irrefl _
    simp only [poll?, if_neg above, full, Option.map_none]

/-- Polls below the greatest word are the polls over numbers. -/
theorem pollAll?_of_room {answers : List (Except Error UInt64)}
    (room : f.watermark.toNat + 1 < UInt64.size)
    (fits : ∀ h, .ok h ∈ answers → h.toNat + 1 < UInt64.size) :
    ∃ results f' q', f.pollAll? q answers = some (results, f', q') ∧
      f.toFollower.pollAll q (answers.map (·.map UInt64.toNat)) =
        (results, f'.toFollower, q') := by
  induction answers generalizing f q with
  | nil => exact ⟨[], f, q, rfl, rfl⟩
  | cons answer answers ih =>
    obtain ⟨result, f', q', step, polled, next⟩ := f.poll?_of_room (q := q) room answer
    have room' : f'.watermark.toNat + 1 < UInt64.size := by
      rcases next with rfl | taken
      · exact room
      · exact fits f'.watermark (taken ▸ List.mem_cons_self)
    obtain ⟨results, last, queue, rest, polls⟩ :=
      ih (q := q') room' fun h mem => fits h (List.mem_cons_of_mem _ mem)
    refine ⟨result :: results, last, queue, ?_, ?_⟩
    · rw [pollAll?, step, Option.bind_some]
      dsimp only
      rw [rest]
      rfl
    · rw [List.map_cons, Follower.pollAll, polled]
      dsimp only
      rw [polls]

end WordFollower

namespace Follower

/-- Polls of a follower that starts at a height, whatever the node answers to each of them. The
watermark is the greatest of the start and the heights that were taken, and all polls together have
put the heights from the start to the watermark into the queue, lowest first and each once, so that
the queue holds these beside what was in it. The next poll fails if the node fails or answers a
height below the watermark, and then changes neither the watermark nor the queue. A run makes the
polls before the first one that fails and ends with its error. All this is also what comes of polls
that keep the watermark in a word, if the start and the node's heights are below the greatest word;
there is only no poll when the greatest word is answered again. -/
theorem never_skips (start : Nat) (q : Queue) (answers : List (Except Error Nat)) :
    ∃ results watermark,
      let f : Follower := ⟨watermark⟩
      let queue := q.pushAll (pushed results)
      pollAll ⟨start⟩ q answers = (results, f, queue) ∧
      results.length = answers.length ∧
      (start :: accepted answers results).max? = some watermark ∧
      pushed results = List.range' (start + 1) (watermark - start) ∧
      (∀ answer,
        ((∃ e, (f.poll queue answer).1 = .error e) ↔
          (∃ e, answer = .error e) ∨ ∃ h < watermark, answer = .ok h) ∧
        ((∃ e, (f.poll queue answer).1 = .error e) → (f.poll queue answer).2 = (f, queue)) ∧
        pollAll ⟨start⟩ q (answers ++ [answer]) =
          (results ++ [(f.poll queue answer).1], (f.poll queue answer).2)) ∧
      (∀ (before : List (List Nat)) e after, results = before.map .ok ++ .error e :: after →
        ∃ last, run ⟨start⟩ q answers = (some e, ⟨last⟩, q.pushAll before.flatten) ∧
          (start :: accepted (answers.take before.length) (before.map .ok)).max? = some last ∧
          before.flatten = List.range' (start + 1) (last - start)) ∧
      ((∀ result ∈ results, ∃ heights, result = .ok heights) →
        run ⟨start⟩ q answers = (none, f, queue)) ∧
      queue.toList.Perm (List.range' (start + 1) (watermark - start) ++ q.toList) ∧
      (∀ (first : WordFollower) (words : List (Except Error UInt64)),
        first.toFollower = ⟨start⟩ → words.map (·.map UInt64.toNat) = answers →
        start + 1 < UInt64.size → (∀ h, .ok h ∈ words → h.toNat + 1 < UInt64.size) →
        ∃ last : WordFollower, first.pollAll? q words = some (results, last, queue) ∧
          last.toFollower = f) ∧
      ∀ (word : WordFollower) (answer : Except Error UInt64), word.poll? queue answer = none ↔
        word.watermark.toNat + 1 = UInt64.size ∧ answer = .ok word.watermark := by
  obtain ⟨results, watermark, polled, -, greatest, all⟩ := pollAll_eq ⟨start⟩ q answers
  have results_eq : (pollAll ⟨start⟩ q answers).1 = results := by rw [polled]
  refine ⟨results, watermark, polled, ?_, ?_, all, fun answer => ?_, ?_, ?_, ?_, ?_,
    fun word answer => word.poll?_eq_none_iff⟩
  · rw [← results_eq, length_pollAll]
  · rw [List.max?_cons', greatest]
  · refine ⟨poll_fails_iff, poll_of_fails, ?_⟩
    rw [pollAll_append, polled]
    rfl
  · intro before e after failed
    rw [← results_eq] at failed
    -- The polls before the failing one are polls of their own.
    obtain ⟨first, last, polledFirst, -, greatestFirst, allFirst⟩ :=
      pollAll_eq ⟨start⟩ q (answers.take before.length)
    have succeeded : first = before.map .ok := by
      have taken := pollAll_take ⟨start⟩ q answers before.length
      rw [polledFirst, failed] at taken
      exact taken.trans (List.take_left' (List.length_map _))
    have flat : pushed (before.map .ok) = before.flatten := by
      rw [pushed, List.filterMap_map]
      exact congrArg List.flatten List.filterMap_some
    rw [succeeded, flat] at polledFirst allFirst
    rw [succeeded] at greatestFirst
    refine ⟨last, ?_, ?_, allFirst⟩
    · rw [run_of_fails failed, polledFirst]
    · rw [List.max?_cons', greatestFirst]
  · intro succeeded
    rw [← results_eq] at succeeded
    rw [run_of_succeeds succeeded, polled]
  · rw [show List.range' (start + 1) (watermark - start) = pushed results from all.symm]
    exact q.pushAll_perm (pushed results)
  · intro first words same given room fits
    have watermark : first.watermark.toNat = start := congrArg Follower.watermark same
    obtain ⟨_, last, _, steps, numbers⟩ :=
      first.pollAll?_of_room (q := q) (watermark ▸ room) fits
    rw [same, given, polled] at numbers
    cases numbers
    exact ⟨last, steps, rfl⟩

/-- An error, a height below the watermark and a repeated one between heights that rise. -/
theorem never_skips_amid_failures :
    let answers := [.ok 13, .error (.rpc "connection refused"), .ok 9, .ok 13, .ok 14]
    ∃ results,
      pollAll ⟨10⟩ .empty answers = (results, ⟨14⟩, Queue.empty.pushAll [11, 12, 13, 14]) ∧
      (∃ e, (poll ⟨14⟩ (Queue.empty.pushAll [11, 12, 13, 14]) (.ok 13)).1 = .error e) ∧
      run ⟨10⟩ .empty answers =
        (some (.rpc "connection refused"), ⟨13⟩, Queue.empty.pushAll [11, 12, 13]) := by
  intro answers
  obtain ⟨results, watermark, polled, -, -, all, next, failed, -⟩ := never_skips 10 .empty answers
  have eq : results = [.ok [11, 12, 13], .error (.rpc "connection refused"),
      .error (.tipRegressed 13 9), .ok [], .ok [14]] := (Prod.mk.inj polled).1.symm
  have top : watermark = 14 := congrArg (·.watermark) (Prod.mk.inj (Prod.mk.inj polled).2).1.symm
  subst eq top
  refine ⟨_, polled, (next (.ok 13)).1.mpr (.inr ⟨13, by decide, rfl⟩), ?_⟩
  obtain ⟨last, ended, greatest, -⟩ := failed [[11, 12, 13]] _ _ rfl
  cases Option.some.inj greatest
  exact ended

end Follower

end BlockIndexer
