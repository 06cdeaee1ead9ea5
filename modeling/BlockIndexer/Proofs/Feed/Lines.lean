import BlockIndexer.Feed.Lines

/-! What a file delivers, and what it has delivered when only a beginning of it was there. The lines
of a text are read the same when more text follows, but for the last one, which may have been
unfinished. So a beginning delivers what the whole file delivers first, under the same numbers, and
after that at most the line it was cut in. -/

namespace BlockIndexer.Feed

variable {start first : Nat} {bytes more seen : List UInt8}

/-- The lines of a text do not change when more is appended. -/
theorem splitLines_append (before bytes more : List UInt8) :
    splitLines before (bytes ++ more) =
      ((splitLines before bytes).1 ++ (splitLines (splitLines before bytes).2.reverse more).1,
        (splitLines (splitLines before bytes).2.reverse more).2) := by
  induction bytes generalizing before with
  | nil => simp [splitLines]
  | cons b bytes ih =>
    simp only [List.cons_append, splitLines]
    by_cases hb : b = newline
    · simp only [if_pos hb, ih]
      rfl
    · simp only [if_neg hb, ih]

theorem completeLines_mono (h : seen <+: bytes) : completeLines seen <+: completeLines bytes := by
  obtain ⟨more, rfl⟩ := h
  rw [completeLines, completeLines, splitLines_append]
  exact List.prefix_append ..

theorem completeLines_isBeginning (bytes : List UInt8) : completeLines bytes <+: lines bytes := by
  unfold lines
  split
  · exact List.prefix_rfl
  · exact List.prefix_append ..

theorem number_append (first : Nat) (ls more : List (List UInt8)) :
    number first (ls ++ more) = number first ls ++ number (first + ls.length) more := by
  induction ls generalizing first with
  | nil => rfl
  | cons l ls ih =>
    simp only [List.cons_append, number, ih, List.length_cons]
    rw [show first + 1 + ls.length = first + (ls.length + 1) by omega]

theorem number_mono {ls all : List (List UInt8)} (h : ls <+: all) :
    number first ls <+: number first all := by
  obtain ⟨more, rfl⟩ := h
  rw [number_append]
  exact List.prefix_append ..

theorem le_sequence_of_mem_number {ls : List (List UInt8)} {d : Delivery}
    (h : d ∈ number first ls) : first ≤ d.sequence := by
  induction ls generalizing first with
  | nil => exact absurd h List.not_mem_nil
  | cons l ls ih =>
    rcases List.mem_cons.mp h with rfl | h
    · exact Nat.le_refl first
    · exact Nat.le_of_succ_le (ih h)

/-- Later lines have higher numbers. -/
theorem number_sorted (first : Nat) (ls : List (List UInt8)) :
    (number first ls).Pairwise (·.sequence < ·.sequence) := by
  induction ls generalizing first with
  | nil => exact .nil
  | cons l ls ih => exact .cons (fun d hd => le_sequence_of_mem_number hd) (ih (first + 1))

theorem deliveries_sorted (start : Nat) (bytes : List UInt8) :
    (deliveries start bytes).Pairwise (·.sequence < ·.sequence) :=
  (number_sorted 1 (lines bytes)).filter _

theorem le_sequence_of_mem_deliveries {d : Delivery} (h : d ∈ deliveries start bytes) :
    start ≤ d.sequence := by
  have delivered := (List.mem_filter.mp h).2
  simp only [isDelivered, Bool.and_eq_true, decide_eq_true_eq] at delivered
  exact delivered.1

/-- Who asks for less gets the same, from there on. -/
theorem deliveries_of_le {later : Nat} (h : start ≤ later) (bytes : List UInt8) :
    deliveries later bytes = (deliveries start bytes).filter (later ≤ ·.sequence) := by
  rw [deliveries, deliveries, List.filter_filter]
  refine List.filter_congr fun d _ => ?_
  by_cases hd : later ≤ d.sequence
  · simp [isDelivered, hd, Nat.le_trans h hd]
  · simp [isDelivered, hd]

/-- A beginning of a file delivers what the file delivers first, and then perhaps its unfinished
line. -/
theorem deliveries_of_beginning (start : Nat) (h : seen <+: bytes) :
    ∃ whole rest, deliveries start seen = whole ++ rest ∧ whole <+: deliveries start bytes ∧
      ∀ d ∈ rest, d.payload = unfinishedLine seen ∧ unfinishedLine seen ≠ [] := by
  have begins : (number 1 (completeLines seen)).filter (isDelivered start) <+:
      deliveries start bytes :=
    (number_mono ((completeLines_mono h).trans (completeLines_isBeginning bytes))).filter _
  by_cases finished : unfinishedLine seen = []
  · refine ⟨_, [], ?_, begins, fun d hd => absurd hd List.not_mem_nil⟩
    rw [List.append_nil, deliveries, lines, finished]
    rfl
  · refine ⟨_, (number (1 + (completeLines seen).length) [unfinishedLine seen]).filter
      (isDelivered start), ?_, begins, fun d hd => ?_⟩
    · rw [deliveries, lines, if_neg (by simpa using finished), number_append, List.filter_append]
    · have hmem := (List.mem_filter.mp hd).1
      simp only [number, List.mem_singleton] at hmem
      exact ⟨by rw [hmem], finished⟩

end BlockIndexer.Feed
