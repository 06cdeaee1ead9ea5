import BlockIndexer.Proofs.Gap.Window

/-! The windows of a walk from any tip. There are as many as fit below the tip and as the walk may
yield; they lie side by side from the tip downward and leave out no height between them. A walk that
keeps its numbers in 64 bits yields the same windows, takes no difference that is below zero, and
once it has yielded none it yields no other. -/

namespace BlockIndexer

/-- The difference of two words, if it is not below zero. -/
def difference? (a b : UInt64) : Option UInt64 := if b ≤ a then some (a - b) else none

theorem difference?_of_le {a b : UInt64} (le : b.toNat ≤ a.toNat) :
    ∃ d, difference? a b = some d ∧ d.toNat = a.toNat - b.toNat := by
  have le : b ≤ a := UInt64.le_iff_toNat_le.mpr le
  exact ⟨a - b, if_pos le, UInt64.toNat_sub_of_le a b le⟩

theorem difference?_of_lt {a b : UInt64} (lt : a.toNat < b.toNat) : difference? a b = none := by
  refine if_neg fun le => ?_
  have := UInt64.le_iff_toNat_le.mp le
  omega

theorem map_toNat_difference? (a b : UInt64) : (difference? a b).map UInt64.toNat =
    if b.toNat ≤ a.toNat then some (a.toNat - b.toNat) else none := by
  by_cases le : b.toNat ≤ a.toNat
  · obtain ⟨d, found, value⟩ := difference?_of_le le
    rw [found, if_pos le, Option.map_some, value]
  · rw [difference?_of_lt (Nat.lt_of_not_le le), if_neg le, Option.map_none]

/-- A window with words for its ends. -/
structure WordWindow where
  min : UInt64
  max : UInt64
  deriving DecidableEq, Repr

def WordWindow.toWindow (w : WordWindow) : Window := ⟨w.min.toNat, w.max.toNat⟩

/-- A walk with words for its numbers. -/
structure WordWalk where
  top : Option UInt64
  size : UInt64
  remaining : UInt64
  deriving DecidableEq, Repr

theorem ScanWindows.next?_of_top (max size : Nat) {remaining : Nat} (left : 0 < remaining) :
    (⟨some max, size, remaining⟩ : ScanWindows).next? =
      if max + 1 < size then none
      else
        let min := max + 1 - size
        some (⟨min, max⟩, ⟨if min = 0 then none else some (min - 1), size, remaining - 1⟩) := by
  obtain ⟨remaining, rfl⟩ := Nat.exists_eq_add_one.mpr left
  rfl

namespace WordWalk

def below (tip size count : UInt64) : WordWalk :=
  ⟨if size = 0 then none else some tip, size, count⟩

/-- The next window, if there is one, and the walk after this step. A window that would begin below
zero ends the walk. None of the other differences is looked at before it is taken, so that there is
no step if one of them is below zero. -/
def step? (w : WordWalk) : Option (Option WordWindow × WordWalk) :=
  if w.remaining = 0 then some (none, w)
  else match w.top with
    | none => some (none, w)
    | some max => (difference? w.size 1).bind fun width =>
      match difference? max width with
      | none => some (none, { w with top := none })
      | some min => (difference? w.remaining 1).map fun remaining =>
        (some ⟨min, max⟩, { w with top := difference? min 1, remaining })

/-- What so many steps yield, one after the other. -/
def yields? : Nat → WordWalk → Option (List (Option WordWindow))
  | 0, _ => some []
  | n + 1, w => w.step?.bind fun (window, w) => (yields? n w).map (window :: ·)

def toScanWindows (w : WordWalk) : ScanWindows :=
  ⟨w.top.map UInt64.toNat, w.size.toNat, w.remaining.toNat⟩

/-- A walk that has a next window has a width. -/
def Sized (w : WordWalk) : Prop := w.top ≠ none → w.size ≠ 0

variable {w w' : WordWalk} {window : Option WordWindow}

theorem sized_below (tip size count : UInt64) : (below tip size count).Sized := by
  intro top zero
  exact top (if_pos zero)

theorem toScanWindows_below (tip size count : UInt64) :
    (below tip size count).toScanWindows = .below tip.toNat size.toNat count.toNat := by
  have zero : size.toNat = 0 ↔ size = 0 := UInt64.toNat_inj (b := 0)
  simp only [toScanWindows, below, ScanWindows.below, zero, ScanWindows.mk.injEq, and_self,
    and_true]
  split <;> rfl

theorem next?_of_done (done : w.remaining = 0) : w.toScanWindows.next? = none := by
  rw [ScanWindows.next?, toScanWindows, done]
  rfl

theorem next?_of_top_eq_none (ended : w.top = none) : w.toScanWindows.next? = none := by
  rw [ScanWindows.next?, toScanWindows, ended]
  cases w.remaining.toNat <;> rfl

section

variable {max width : UInt64} (top : w.top = some max) (left : 0 < w.remaining.toNat)
  (width_eq : difference? w.size 1 = some width)

include top left width_eq

theorem step?_of_some {min : UInt64} (found : difference? max width = some min) :
    ∃ remaining, remaining.toNat = w.remaining.toNat - 1 ∧
      w.step? = some (some ⟨min, max⟩, ⟨difference? min 1, w.size, remaining⟩) := by
  obtain ⟨remaining, remaining_eq, value⟩ := difference?_of_le (a := w.remaining) (b := 1) left
  have undone : w.remaining ≠ 0 := fun done => by simp [done] at left
  refine ⟨remaining, value, ?_⟩
  simp only [step?, if_neg undone, top, width_eq, Option.bind_some, found, remaining_eq,
    Option.map_some]

theorem step?_of_none (none : difference? max width = none) :
    w.step? = some (.none, ⟨.none, w.size, w.remaining⟩) := by
  have undone : w.remaining ≠ 0 := fun done => by simp [done] at left
  simp only [step?, if_neg undone, top, width_eq, Option.bind_some, none]

end

/-- What the next step yields is what the walk over natural numbers yields next. -/
theorem step?_cases (sized : w.Sized) :
    (∃ w', w.step? = some (none, w') ∧ w'.Sized ∧ w.toScanWindows.next? = none ∧
      w'.toScanWindows.next? = none) ∨
    ∃ window w', w.step? = some (some window, w') ∧ w'.Sized ∧
      w.toScanWindows.next? = some (window.toWindow, w'.toScanWindows) := by
  by_cases done : w.remaining = 0
  · have ended := next?_of_done done
    exact .inl ⟨w, if_pos done, sized, ended, ended⟩
  cases top : w.top with
  | none =>
    have ended := next?_of_top_eq_none top
    refine .inl ⟨w, ?_, sized, ended, ended⟩
    rw [step?, if_neg done, top]
  | some max =>
    have left : 0 < w.remaining.toNat :=
      Nat.pos_of_ne_zero fun zero => done (UInt64.toNat_inj.mp zero)
    have positive : w.size ≠ 0 := sized (by simp [top])
    have wide : 0 < w.size.toNat :=
      Nat.pos_of_ne_zero fun zero => positive (UInt64.toNat_inj.mp zero)
    obtain ⟨width, width_eq, width_toNat⟩ := difference?_of_le (a := w.size) (b := 1) wide
    have one : (1 : UInt64).toNat = 1 := rfl
    rw [one] at width_toNat
    have next := ScanWindows.next?_of_top max.toNat w.size.toNat left
    have here : w.toScanWindows = ⟨some max.toNat, w.size.toNat, w.remaining.toNat⟩ := by
      rw [toScanWindows, top, Option.map_some]
    rw [← here] at next
    by_cases fits : width.toNat ≤ max.toNat
    · obtain ⟨min, min_eq, min_toNat⟩ := difference?_of_le fits
      obtain ⟨remaining, remaining_toNat, step⟩ := step?_of_some top left width_eq min_eq
      have lower : max.toNat + 1 - w.size.toNat = min.toNat := by omega
      refine .inr ⟨_, _, step, fun _ => positive, ?_⟩
      rw [next, if_neg (by omega), lower]
      simp only [toScanWindows, WordWindow.toWindow, map_toNat_difference?, one, remaining_toNat,
        Nat.one_le_iff_ne_zero, ite_not]
    · refine .inl ⟨_, step?_of_none top left width_eq (difference?_of_lt (Nat.lt_of_not_le fits)),
        fun some => absurd rfl some, ?_, next?_of_top_eq_none rfl⟩
      rw [next, if_pos (by omega)]

theorem yields?_succ (step : w.step? = some (window, w')) (n : Nat) :
    w.yields? (n + 1) = (w'.yields? n).map (window :: ·) := by
  rw [yields?, step]
  rfl

/-- A walk that has ended yields nothing ever after. -/
theorem yields?_of_ended (sized : w.Sized) (ended : w.toScanWindows.next? = none) (n : Nat) :
    w.yields? n = some (List.replicate n none) := by
  induction n generalizing w with
  | zero => rfl
  | succ n ih =>
    rcases step?_cases sized with ⟨w', step, sized, -, still⟩ | ⟨window, w', -, -, next⟩
    · rw [yields?_succ step, ih sized still]
      rfl
    · rw [ended] at next
      contradiction

end WordWalk

namespace ScanWindows

variable {tip size count : Nat} {seen : List Window} {rest : ScanWindows}

/-- The windows of a whole walk, the highest first. -/
def windows (tip size count : Nat) : List Window :=
  (List.range (windowCount tip size count)).map (windowAt tip size)

theorem length_windows (tip size count : Nat) :
    (windows tip size count).length = windowCount tip size count := by
  rw [windows, List.length_map, List.length_range]

theorem Walked.ended (walked : Walked tip size count seen rest) (none : rest.next? = none) :
    (windows tip size count).length = seen.length := by
  rw [length_windows, walked.next?_eq_none_iff.mp none]

theorem Walked.getElem? (walked : Walked tip size count seen rest) {w : Window}
    {rest' : ScanWindows} (next : rest.next? = some (w, rest')) :
    (windows tip size count)[seen.length]? = some w := by
  have more : seen.length < windowCount tip size count := by
    refine Nat.lt_of_le_of_ne walked.length_le_windowCount fun all => ?_
    rw [walked.next?_eq_none_iff.mpr all] at next
    contradiction
  rw [windows, List.getElem?_map, List.getElem?_range more, walked.eq_windowAt next]
  rfl

/-- A walk yields the windows after those it has yielded. -/
theorem Walked.take_eq (walked : Walked tip size count seen rest) (n : Nat) :
    (rest.take n).1 = ((windows tip size count).drop seen.length).take n := by
  induction n generalizing seen rest with
  | zero => rw [take, List.take_zero]
  | succ n ih =>
    cases next : rest.next? with
    | none =>
      rw [take, next, List.drop_of_length_le (Nat.le_of_eq (walked.ended next)), List.take_nil]
    | some step =>
      obtain ⟨w, rest'⟩ := step
      have later := ih (walked.next next)
      rw [List.length_append, List.length_singleton] at later
      rw [take, next, List.drop_eq_getElem?_toList_append, walked.getElem? next]
      simp only [later, Option.toList_some, List.singleton_append, List.take_succ_cons]

/-- A walk in words yields the same, and then nothing. -/
theorem Walked.yields?_eq {w : WordWalk} (walked : Walked tip size count seen w.toScanWindows)
    (sized : w.Sized) (n : Nat) :
    ∃ yielded, w.yields? n = some yielded ∧
      yielded.map (Option.map WordWindow.toWindow) =
        (List.range' seen.length n).map fun i => (windows tip size count)[i]? := by
  induction n generalizing seen w with
  | zero => exact ⟨[], rfl, rfl⟩
  | succ n ih =>
    rcases WordWalk.step?_cases sized with ⟨w', -, -, ended, -⟩ | ⟨window, w', step, sized, next⟩
    · refine ⟨_, WordWalk.yields?_of_ended sized ended _, ?_⟩
      have beyond : ∀ i ∈ List.range' seen.length (n + 1), (windows tip size count)[i]? = none := by
        intro i mem
        rw [List.getElem?_eq_none_iff, walked.ended ended]
        exact (List.mem_range'_1.mp mem).1
      rw [List.map_congr_left beyond, List.map_replicate, List.map_const', List.length_range']
      rfl
    · obtain ⟨yielded, later, same⟩ := ih (walked.next next) sized
      refine ⟨some window :: yielded, ?_, ?_⟩
      · rw [WordWalk.yields?_succ step, later]
        rfl
      · rw [List.map_cons, same, List.range'_succ, List.map_cons, walked.getElem? next,
          List.length_append]
        rfl

theorem windows_fall (tip size count : Nat) :
    (windows tip size count).Pairwise (·.min > ·.max) := by
  cases Nat.eq_zero_or_pos size with
  | inl zero =>
    have none : windowCount tip size count = 0 := by
      rw [windowCount, zero, Nat.div_zero, Nat.min_zero]
    rw [windows, none]
    exact .nil
  | inr positive =>
    refine windowAt_falls positive ((Nat.le_div_iff_mul_le positive).mp ?_)
    exact Nat.min_le_right ..

theorem mem_windows {w : Window} :
    w ∈ windows tip size count ↔ ∃ i < windowCount tip size count, windowAt tip size i = w := by
  simp only [windows, List.mem_map, List.mem_range]

theorem covered_iff {h : Nat} : (∃ w ∈ windows tip size count, w.min ≤ h ∧ h ≤ w.max) ↔
    tip + 1 - windowCount tip size count * size ≤ h ∧ h ≤ tip := by
  constructor
  · rintro ⟨w, mem, low, high⟩
    obtain ⟨i, lt, rfl⟩ := mem_windows.mp mem
    obtain ⟨-, bottom, top⟩ := windowAt_width lt
    exact ⟨Nat.le_trans bottom low, Nat.le_trans high top⟩
  · rintro ⟨low, high⟩
    obtain ⟨i, lt, inside⟩ := exists_windowAt low high
    exact ⟨_, mem_windows.mpr ⟨i, lt, rfl⟩, inside⟩

/-- Below the windows that fit, fewer heights are left than one window is wide. -/
theorem left_below (positive : 0 < size) (all : (tip + 1) / size ≤ count) :
    tip + 1 - windowCount tip size count * size < size := by
  have whole := Nat.div_add_mod (tip + 1) size
  have few := Nat.mod_lt (tip + 1) positive
  rw [windowCount, Nat.min_eq_right all, Nat.mul_comm]
  omega

/-- From a tip of 64 bits, a walk with a width yields as many windows as fit into the heights up to
the tip, but no more than it may, and one without a width yields none. In words, each step of the
walk can be taken, and after the last window it yields nothing for ever. The windows follow each
other downward without a gap and without a common height, each as wide as it has to be, and cover
the heights from the lower end of the last one to the tip. Unless the walk may yield fewer than fit,
fewer heights are left below them than a window is wide. -/
theorem tiles_heights (tip size count : UInt64) :
    let k := if size = 0 then 0 else min count.toNat ((tip.toNat + 1) / size.toNat)
    let window i : Window := ⟨tip.toNat + 1 - (i + 1) * size.toNat, tip.toNat - i * size.toNat⟩
    let windows := (List.range k).map window
    (∀ n, ((below tip.toNat size.toNat count.toNat).take n).1 = windows.take n) ∧
    (∀ n, ∃ yielded, (WordWalk.below tip size count).yields? n = some yielded ∧
      yielded.map (Option.map WordWindow.toWindow) = (List.range n).map fun i => windows[i]?) ∧
    (∀ i < k, (i + 1) * size.toNat ≤ tip.toNat + 1 ∧ i * size.toNat ≤ tip.toNat) ∧
    windows.Pairwise (·.min > ·.max) ∧
    (∀ i, i + 1 < k → (window (i + 1)).max + 1 = (window i).min) ∧
    (∀ w ∈ windows, w.max + 1 = w.min + size.toNat) ∧
    (∀ h, (∃ w ∈ windows, w.min ≤ h ∧ h ≤ w.max) ↔
      tip.toNat + 1 - k * size.toNat ≤ h ∧ h ≤ tip.toNat) ∧
    (size ≠ 0 → (tip.toNat + 1) / size.toNat ≤ count.toNat →
      tip.toNat + 1 - k * size.toNat < size.toNat) := by
  intro k window windows
  have count_eq : k = windowCount tip.toNat size.toNat count.toNat := by
    simp only [k]
    split
    next zero =>
      have none : size.toNat = 0 := by rw [zero]; rfl
      rw [windowCount, none, Nat.div_zero, Nat.min_zero]
    next => rfl
  have windows_eq : windows = ScanWindows.windows tip.toNat size.toNat count.toNat := by
    simp only [windows, count_eq]
    rfl
  have walked := walked_below tip.toNat size.toNat count.toNat
  rw [windows_eq, count_eq]
  refine ⟨walked.take_eq, fun n => ?_, fun i lt => ?_, windows_fall .., fun i lt => ?_,
    fun w mem => ?_, fun h => covered_iff, fun positive all => ?_⟩
  · rw [← WordWalk.toScanWindows_below] at walked
    rw [List.range_eq_range']
    exact walked.yields?_eq (WordWalk.sized_below tip size count) n
  · obtain ⟨positive, fits⟩ := fits_of_lt_windowCount lt
    rw [Nat.succ_mul] at fits ⊢
    omega
  · obtain ⟨positive, fits⟩ := fits_of_lt_windowCount lt
    rw [Nat.succ_mul] at fits
    simp only [window]
    omega
  · obtain ⟨i, lt, rfl⟩ := mem_windows.mp mem
    exact (windowAt_width lt).1
  · exact left_below (Nat.pos_of_ne_zero fun zero => positive (UInt64.toNat_inj.mp zero)) all

/-- Below the highest of all tips one window of the greatest width fits, and zero is left. -/
example :
    (WordWalk.below 18446744073709551615 18446744073709551615 3).yields? 3 =
      some [some ⟨1, 18446744073709551615⟩, none, none] := by decide

end ScanWindows

end BlockIndexer
