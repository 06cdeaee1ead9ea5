import BlockIndexer.Feed.Pump
import BlockIndexer.Proofs.Feed.Lines

/-! What a pump delivers of a file, whichever way its bytes arrive. The lines of a text are cut
after each newline. A pump that stops at the end of the file delivers all of them, and one that
follows the file has always delivered the complete ones among what was written so far, and keeps
the bytes after them. -/

namespace BlockIndexer.Feed

/-- The bytes are complete lines, each with its newline at the end and nowhere else, and a tail
without a newline. -/
structure Cut (bytes : List UInt8) (ls : List (List UInt8)) (tail : List UInt8) : Prop where
  joined : ls.flatten ++ tail = bytes
  ended : ∀ line ∈ ls, ∃ body, line = body ++ [newline] ∧ newline ∉ body
  unended : newline ∉ tail

/-- What is delivered of lines that are numbered from 1: all but those before `start` and the
blank ones, in their order. -/
structure Frames (start : Nat) (ls : List (List UInt8)) (ds : List Delivery) : Prop where
  rises : ds.Pairwise (·.sequence < ·.sequence)
  mem_iff : ∀ n line, ⟨n, line⟩ ∈ ds ↔
    0 < n ∧ ls[n - 1]? = some line ∧ start ≤ n ∧ ∃ b ∈ line, b ∉ [32, 9, 10, 12, 13]

variable {bytes body rest tail : List UInt8} {ls : List (List UInt8)} {start : Nat}

/-! ### Texts line by line -/

@[elab_as_elim]
theorem lines_induction {motive : List UInt8 → Prop}
    (tail : ∀ tail, newline ∉ tail → motive tail)
    (line : ∀ body rest, newline ∉ body → motive rest → motive (body ++ newline :: rest))
    (bytes : List UInt8) : motive bytes := by
  induction length : bytes.length using Nat.strongRecOn generalizing bytes with
  | ind n ih =>
    by_cases h : newline ∈ bytes
    · obtain ⟨body, rest, rfl, unended⟩ := List.eq_append_cons_of_mem h
      refine line body rest unended (ih rest.length ?_ rest rfl)
      rw [← length, List.length_append, List.length_cons]
      omega
    · exact tail bytes h

theorem splitLines_of_not_mem (before : List UInt8) (unended : newline ∉ tail) :
    splitLines before tail = ([], before.reverse ++ tail) := by
  induction tail generalizing before with
  | nil => rw [splitLines, List.append_nil]
  | cons b tail ih =>
    rw [List.mem_cons, not_or] at unended
    obtain ⟨other, unended⟩ := unended
    rw [splitLines, if_neg (Ne.symm other), ih (b :: before) unended, List.reverse_cons,
      List.append_assoc]
    rfl

theorem splitLines_line (before : List UInt8) (unended : newline ∉ body) (rest : List UInt8) :
    splitLines before (body ++ newline :: rest) =
      ((before.reverse ++ body ++ [newline]) :: completeLines rest, unfinishedLine rest) := by
  rw [splitLines_append, splitLines_of_not_mem before unended, splitLines, if_pos rfl,
    List.reverse_cons, List.reverse_reverse]
  rfl

theorem completeLines_of_not_mem (unended : newline ∉ tail) : completeLines tail = [] := by
  rw [completeLines, splitLines_of_not_mem [] unended]

theorem unfinishedLine_of_not_mem (unended : newline ∉ tail) : unfinishedLine tail = tail := by
  rw [unfinishedLine, splitLines_of_not_mem [] unended]
  rfl

theorem completeLines_line (unended : newline ∉ body) (rest : List UInt8) :
    completeLines (body ++ newline :: rest) = (body ++ [newline]) :: completeLines rest := by
  rw [completeLines, splitLines_line [] unended]
  rfl

theorem unfinishedLine_line (unended : newline ∉ body) (rest : List UInt8) :
    unfinishedLine (body ++ newline :: rest) = unfinishedLine rest := by
  rw [unfinishedLine, splitLines_line [] unended]

theorem lines_line (unended : newline ∉ body) (rest : List UInt8) :
    lines (body ++ newline :: rest) = (body ++ [newline]) :: lines rest := by
  rw [lines, lines, completeLines_line unended, unfinishedLine_line unended]
  split <;> rfl

theorem readLine_of_not_mem (unended : newline ∉ tail) : readLine tail = (tail, []) := by
  induction tail with
  | nil => rfl
  | cons b tail ih =>
    rw [List.mem_cons, not_or] at unended
    obtain ⟨other, unended⟩ := unended
    rw [readLine, if_neg (Ne.symm other), ih unended]

theorem readLine_line (unended : newline ∉ body) (rest : List UInt8) :
    readLine (body ++ newline :: rest) = (body ++ [newline], rest) := by
  induction body with
  | nil => rfl
  | cons b body ih =>
    rw [List.mem_cons, not_or] at unended
    obtain ⟨other, unended⟩ := unended
    rw [List.cons_append, readLine, if_neg (Ne.symm other), ih unended]
    rfl

theorem cut (bytes : List UInt8) : Cut bytes (completeLines bytes) (unfinishedLine bytes) := by
  induction bytes using lines_induction with
  | tail tail unended =>
    rw [completeLines_of_not_mem unended, unfinishedLine_of_not_mem unended]
    exact ⟨rfl, nofun, unended⟩
  | line body rest unended ih =>
    rw [completeLines_line unended, unfinishedLine_line unended]
    refine ⟨?_, ?_, ih.unended⟩
    · rw [List.flatten_cons, List.append_assoc, ih.joined]
      simp
    · intro line mem
      rcases List.mem_cons.mp mem with rfl | later
      · exact ⟨body, rfl, unended⟩
      · exact ih.ended line later

theorem unfinishedLine_of_ended (ended : bytes.getLast? = some newline) :
    unfinishedLine bytes = [] := by
  have cut := cut bytes
  cases kept : unfinishedLine bytes with
  | nil => rfl
  | cons b tail =>
    rw [← cut.joined, List.getLast?_append, kept, List.getLast?_cons, Option.some_or,
      ← List.getLast?_cons] at ended
    exact absurd (kept ▸ List.mem_of_getLast? ended) cut.unended

theorem splitLines_carried (unended : newline ∉ tail) (more : List UInt8) :
    splitLines tail.reverse more = splitLines [] (tail ++ more) := by
  rw [splitLines_append, splitLines_of_not_mem [] unended]
  rfl

/-- The tail of a text stands before what is written next. -/
theorem completeLines_append (bytes more : List UInt8) :
    completeLines (bytes ++ more) =
      completeLines bytes ++ completeLines (unfinishedLine bytes ++ more) := by
  rw [completeLines, splitLines_append]
  show completeLines bytes ++ (splitLines (unfinishedLine bytes).reverse more).1 = _
  rw [splitLines_carried (cut bytes).unended]
  rfl

theorem unfinishedLine_append (bytes more : List UInt8) :
    unfinishedLine (bytes ++ more) = unfinishedLine (unfinishedLine bytes ++ more) := by
  rw [unfinishedLine, splitLines_append]
  show (splitLines (unfinishedLine bytes).reverse more).2 = _
  rw [splitLines_carried (cut bytes).unended]
  rfl

/-! ### Numbered lines -/

theorem number_cons (first : Nat) (line : List UInt8) (ls : List (List UInt8)) :
    number first (line :: ls) = number first [line] ++ number (first + 1) ls :=
  rfl

theorem mem_number {first n : Nat} {line : List UInt8} :
    ⟨n, line⟩ ∈ number first ls ↔ first ≤ n ∧ ls[n - first]? = some line := by
  induction ls generalizing first with
  | nil => simp [number]
  | cons l ls ih =>
    rw [number, List.mem_cons, ih, Delivery.mk.injEq]
    constructor
    · rintro (⟨rfl, rfl⟩ | ⟨above, found⟩)
      · exact ⟨Nat.le_refl _, by rw [Nat.sub_self]; rfl⟩
      · refine ⟨by omega, ?_⟩
        rw [show n - first = n - (first + 1) + 1 by omega, List.getElem?_cons_succ]
        exact found
    · rintro ⟨above, found⟩
      by_cases here : n = first
      · rw [here, Nat.sub_self, List.getElem?_cons_zero] at found
        exact .inl ⟨here, (Option.some.inj found).symm⟩
      · rw [show n - first = n - (first + 1) + 1 by omega, List.getElem?_cons_succ] at found
        exact .inr ⟨by omega, found⟩

theorem isBlankLine_eq_false_iff {line : List UInt8} :
    isBlankLine line = false ↔ ∃ b ∈ line, b ∉ [32, 9, 10, 12, 13] := by
  rw [isBlankLine, List.all_eq_false]
  refine exists_congr fun b => and_congr_right fun _ => ?_
  simp [isBlankByte, and_assoc]

theorem frames_number (start : Nat) (ls : List (List UInt8)) :
    Frames start ls ((number 1 ls).filter (isDelivered start)) where
  rises := (number_sorted 1 ls).filter _
  mem_iff n line := by
    rw [List.mem_filter, mem_number, isDelivered, Bool.and_eq_true, Bool.not_eq_true',
      decide_eq_true_eq, isBlankLine_eq_false_iff, and_assoc]
    rfl

/-- Who asks for less gets the same lines from there on. -/
theorem filter_isDelivered (start : Nat) {first : Nat} (positive : 0 < first)
    (ls : List (List UInt8)) :
    (number first ls).filter (isDelivered start) =
      ((number first ls).filter (isDelivered 1)).filter (start ≤ ·.sequence) := by
  rw [List.filter_filter]
  refine List.filter_congr fun d mem => ?_
  have above := le_sequence_of_mem_number mem
  have counted : decide (1 ≤ d.sequence) = true := decide_eq_true (by omega)
  rw [isDelivered, isDelivered, counted, Bool.true_and]

/-! ### Pumps -/

namespace Pump

variable {p : Pump} {chunks : List (List UInt8)}

theorem turn_line (p : Pump) (unended : newline ∉ body) (rest : List UInt8) :
    p.turn (body ++ newline :: rest) = .takes (p.line ++ body ++ [newline]) rest := by
  unfold turn
  rw [readLine_line unended]
  simp

theorem turn_tail (kept : newline ∉ p.line) (unended : newline ∉ tail) :
    p.turn tail =
      if p.follow then .waits (p.line ++ tail)
      else if (p.line ++ tail).isEmpty then .closes
      else .takes (p.line ++ tail) [] := by
  have incomplete : ((p.line ++ tail).getLast? != some newline) = true := by
    rw [bne_iff_ne]
    intro last
    rcases List.mem_append.mp (List.mem_of_getLast? last) with old | new
    · exact kept old
    · exact unended new
  unfold turn
  rw [readLine_of_not_mem unended]
  simp only [incomplete, Bool.or_true, if_true]

theorem run_of_takes {unread line : List UInt8} (h : p.turn unread = .takes line rest) :
    p.run unread = ((number p.next.sequence [line]).filter (isDelivered p.start) ++
      (p.next.run rest).1, (p.next.run rest).2) := by
  rw [run]
  split
  next closes => rw [h] at closes; contradiction
  next waits => rw [h] at waits; contradiction
  next takes =>
    cases h.symm.trans takes
    simp only [number, List.filter_cons, List.filter_nil]
    split <;> rfl

theorem run_of_waits {unread line : List UInt8} (h : p.turn unread = .waits line) :
    p.run unread = ([], some { p with line }) := by
  rw [run]
  split
  next closes => rw [h] at closes; contradiction
  next waits => cases h.symm.trans waits; rfl
  next takes => rw [h] at takes; contradiction

theorem run_of_closes {unread : List UInt8} (h : p.turn unread = .closes) :
    p.run unread = ([], none) := by
  rw [run]
  split
  next closes => rfl
  next waits => rw [h] at waits; contradiction
  next takes => rw [h] at takes; contradiction

/-- The pump follows the file, and what it keeps is the beginning of a line. -/
structure Following (p : Pump) : Prop where
  follow : p.follow = true
  kept : newline ∉ p.line

/-- The pump after all complete lines of what it has kept and reads. -/
def past (p : Pump) (bytes : List UInt8) : Pump :=
  { p with
    sequence := p.sequence + (completeLines (p.line ++ bytes)).length
    line := unfinishedLine (p.line ++ bytes) }

theorem Following.past (following : p.Following) (bytes : List UInt8) :
    (p.past bytes).Following :=
  ⟨following.follow, (cut _).unended⟩

theorem past_nil (following : p.Following) : p.past [] = p := by
  rw [Pump.past, List.append_nil, completeLines_of_not_mem following.kept,
    unfinishedLine_of_not_mem following.kept]
  rfl

theorem past_append (p : Pump) (bytes more : List UInt8) :
    p.past (bytes ++ more) = (p.past bytes).past more := by
  simp only [past, ← List.append_assoc, completeLines_append (p.line ++ bytes),
    unfinishedLine_append (p.line ++ bytes), List.length_append, Nat.add_assoc]

/-- A pump that follows the file delivers the complete lines of what it has kept and reads, and
keeps the bytes after them. -/
theorem run_following (following : p.Following) (bytes : List UInt8) :
    p.run bytes =
      ((number (p.sequence + 1) (completeLines (p.line ++ bytes))).filter (isDelivered p.start),
        some (p.past bytes)) := by
  obtain ⟨follow, kept⟩ := following
  induction bytes using lines_induction generalizing p with
  | tail tail unended =>
    have whole : newline ∉ p.line ++ tail := by
      rw [List.mem_append, not_or]
      exact ⟨kept, unended⟩
    rw [run_of_waits ((turn_tail kept unended).trans (if_pos follow)), past,
      completeLines_of_not_mem whole, unfinishedLine_of_not_mem whole]
    rfl
  | line body rest unended ih =>
    have whole : newline ∉ p.line ++ body := by
      rw [List.mem_append, not_or]
      exact ⟨kept, unended⟩
    rw [run_of_takes (p.turn_line unended rest), @ih p.next follow List.not_mem_nil, past, past,
      ← List.append_assoc, completeLines_line whole, unfinishedLine_line whole,
      number_cons _ _ (completeLines rest), List.filter_append, List.length_cons]
    simp only [next, List.nil_append, Nat.add_assoc, Nat.add_comm 1]

/-- A pump that does not follow the file delivers all its lines and closes. -/
theorem run_once (once : p.follow = false) (fresh : p.line = []) (bytes : List UInt8) :
    p.run bytes =
      ((number (p.sequence + 1) (lines bytes)).filter (isDelivered p.start), none) := by
  have kept : newline ∉ p.line := fresh ▸ List.not_mem_nil
  have close (q : Pump) (once : q.follow = false) (fresh : q.line = []) :
      q.run [] = ([], none) := by
    refine run_of_closes ((turn_tail (fresh ▸ List.not_mem_nil) List.not_mem_nil).trans ?_)
    rw [once, fresh]
    rfl
  induction bytes using lines_induction generalizing p with
  | tail tail unended =>
    rw [lines, unfinishedLine_of_not_mem unended, completeLines_of_not_mem unended]
    by_cases empty : tail = []
    · rw [empty, close p once fresh]
      rfl
    · have takes : p.turn tail = .takes tail [] := by
        rw [turn_tail kept unended, once, fresh]
        simp [empty]
      rw [run_of_takes takes, close p.next once rfl]
      simp [empty, next]
  | line body rest unended ih =>
    rw [run_of_takes (p.turn_line unended rest), @ih p.next once rfl List.not_mem_nil,
      lines_line unended, fresh, List.nil_append, number_cons _ _ (lines rest), List.filter_append]
    rfl

/-- Reading on, a pump that follows the file delivers what it would have in one go. -/
theorem run_append (following : p.Following) (bytes more : List UInt8) :
    p.run (bytes ++ more) =
      ((p.run bytes).1 ++ ((p.past bytes).run more).1, ((p.past bytes).run more).2) := by
  rw [run_following following, run_following following, run_following (following.past bytes),
    past_append, ← List.append_assoc, completeLines_append (p.line ++ bytes), number_append,
    List.filter_append]
  simp only [past, Nat.add_assoc, Nat.add_comm 1]

theorem runChunks_of_run {chunk : List UInt8} {q : Pump} (h : (p.run chunk).2 = some q) :
    p.runChunks (chunk :: chunks) =
      ((p.run chunk).1 :: (q.runChunks chunks).1, (q.runChunks chunks).2) := by
  rw [runChunks]
  split
  next closed =>
    rw [closed] at h
    contradiction
  next reads =>
    rw [reads] at h ⊢
    cases h
    rfl

/-- However what is written is cut into chunks, a pump that follows the file delivers the same. -/
theorem runChunks_flatten (following : p.Following) (chunks : List (List UInt8)) :
    ((p.runChunks chunks).1.flatten, (p.runChunks chunks).2) = p.run chunks.flatten := by
  induction chunks generalizing p with
  | nil =>
    rw [List.flatten_nil, run_following following, past_nil following, List.append_nil,
      completeLines_of_not_mem following.kept]
    rfl
  | cons chunk chunks ih =>
    have waits : (p.run chunk).2 = some (p.past chunk) := by rw [run_following following]
    rw [runChunks_of_run waits, List.flatten_cons, List.flatten_cons, run_append following,
      ← ih (following.past chunk)]

theorem runChunks_take (p : Pump) (chunks : List (List UInt8)) (k : Nat) :
    (p.runChunks (chunks.take k)).1 = (p.runChunks chunks).1.take k := by
  induction chunks generalizing p k with
  | nil => simp [runChunks]
  | cons chunk chunks ih =>
    cases k with
    | zero => rfl
    | succ k =>
      cases left : (p.run chunk).2 with
      | none =>
        have closed : p.run chunk = ((p.run chunk).1, none) := Prod.ext rfl left
        rw [List.take_succ_cons, runChunks, runChunks, closed]
        simp [List.map_take]
      | some q =>
        rw [List.take_succ_cons, runChunks_of_run left, runChunks_of_run left,
          List.take_succ_cons, ih]

/-- Who asks for less gets the same after each chunk, from there on. -/
theorem runChunks_start (following : p.Following) (start : Nat) (chunks : List (List UInt8)) :
    ({ p with start }.runChunks chunks).1 =
      ({ p with start := 1 }.runChunks chunks).1.map
        (List.filter fun d => start ≤ d.sequence) := by
  induction chunks generalizing p with
  | nil => rfl
  | cons chunk chunks ih =>
    have reads (n : Nat) := @run_following { p with start := n } ⟨following.1, following.2⟩ chunk
    rw [runChunks_of_run (congrArg Prod.snd (reads start)),
      runChunks_of_run (congrArg Prod.snd (reads 1)), reads, reads, List.map_cons]
    exact List.cons_eq_cons.mpr
      ⟨filter_isDelivered start (Nat.succ_pos _) _, ih (following.past chunk)⟩

theorem following_subscribe (start : Nat) : (subscribe true start).Following :=
  ⟨rfl, List.not_mem_nil⟩

theorem run_subscribe (start : Nat) (bytes : List UInt8) :
    (subscribe false start).run bytes = (deliveries start bytes, none) :=
  run_once rfl rfl bytes

/-- What was delivered after some chunks, and what the pump keeps. -/
theorem runChunks_subscribe (start : Nat) (chunks : List (List UInt8)) :
    ((subscribe true start).runChunks chunks).1.flatten =
        (number 1 (completeLines chunks.flatten)).filter (isDelivered start) ∧
      ((subscribe true start).runChunks chunks).2 = some ⟨true, start,
        (completeLines chunks.flatten).length, unfinishedLine chunks.flatten⟩ := by
  have whole := runChunks_flatten (following_subscribe start) chunks
  rw [run_following (following_subscribe start)] at whole
  obtain ⟨delivered, last⟩ := Prod.mk.inj whole
  refine ⟨delivered, last.trans ?_⟩
  rw [past, show (subscribe true start).sequence = 0 from rfl, Nat.zero_add]
  rfl

/-- What a file delivers does not depend on how its bytes arrive. A pump that does not follow the
file delivers its lines, numbered over all of them, but for the blank ones and those before the one
that was asked for, and closes. One that follows the file has delivered just so, after any chunks,
the complete lines of what was written; it keeps the rest, with which the next line begins. So both
deliver the same of a file that ends with a newline, and who asks for less gets the same from there
on. -/
theorem framing_independent (start : Nat) :
    (∀ bytes, Cut bytes (completeLines bytes) (unfinishedLine bytes) ∧
      lines bytes = completeLines bytes ++ ([unfinishedLine bytes].filter (· ≠ [])) ∧
      ∃ ds, (subscribe false start).run bytes = (ds, none) ∧ Frames start (lines bytes) ds) ∧
    (∀ chunks k,
      let seen := (chunks.take k).flatten
      Frames start (completeLines seen)
        (((subscribe true start).runChunks chunks).1.take k).flatten ∧
      ((subscribe true start).runChunks (chunks.take k)).2 =
        some ⟨true, start, (completeLines seen).length, unfinishedLine seen⟩ ∧
      ∀ more, completeLines (seen ++ more) =
        completeLines seen ++ completeLines (unfinishedLine seen ++ more)) ∧
    (∀ chunks : List (List UInt8), chunks.flatten.getLast? = some newline →
      ((subscribe true start).runChunks chunks).1.flatten =
        ((subscribe false start).run chunks.flatten).1) ∧
    (∀ bytes, ((subscribe false start).run bytes).1 =
      ((subscribe false 1).run bytes).1.filter (start ≤ ·.sequence)) ∧
    ∀ chunks, ((subscribe true start).runChunks chunks).1 =
      ((subscribe true 1).runChunks chunks).1.map (List.filter fun d => start ≤ d.sequence) := by
  have tail_of_lines (bytes : List UInt8) :
      lines bytes = completeLines bytes ++ ([unfinishedLine bytes].filter (· ≠ [])) := by
    unfold lines
    by_cases finished : unfinishedLine bytes = [] <;> simp [finished]
  refine ⟨fun bytes => ⟨cut bytes, tail_of_lines bytes, _, run_subscribe start bytes,
    frames_number start _⟩, fun chunks k => ?_, fun chunks ended => ?_, fun bytes => ?_,
    runChunks_start (following_subscribe start) start⟩
  · intro seen
    obtain ⟨delivered, last⟩ := runChunks_subscribe start (chunks.take k)
    rw [runChunks_take] at delivered
    exact ⟨delivered ▸ frames_number start _, last, completeLines_append seen⟩
  · rw [(runChunks_subscribe start chunks).1, run_subscribe, deliveries, tail_of_lines,
      unfinishedLine_of_ended ended]
    simp
  · rw [run_subscribe, run_subscribe]
    exact filter_isDelivered start Nat.one_pos _

/-- Two lines whose bytes arrive in five chunks, one of them empty. -/
theorem two_lines_in_five_chunks :
    let chunks : List (List UInt8) := [[97], [98, 10, 32], [], [10, 206], [177, 10]]
    ((subscribe true 1).runChunks chunks).1.flatten =
        ((subscribe false 1).run chunks.flatten).1 ∧
      ((subscribe true 1).runChunks (chunks.take 4)).2 = some ⟨true, 1, 2, [206]⟩ ∧
      ((subscribe false 1).run chunks.flatten).1 = [⟨1, [97, 98, 10]⟩, ⟨3, [206, 177, 10]⟩] := by
  intro chunks
  obtain ⟨-, following, agree, -, -⟩ := framing_independent 1
  refine ⟨agree chunks (by decide), ?_, ?_⟩
  · exact (following chunks 4).2.1.trans (by decide)
  · rw [run_subscribe]
    decide

end Pump

end BlockIndexer.Feed
