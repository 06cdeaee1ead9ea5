import BlockIndexer.Text.Numeral
import Mathlib.Data.Nat.Digits.Defs

/-! Numerals and the numbers that they write. A numeral is read as the number that its digits write
in the base of its marker, and as nothing if it has other characters than these digits and
underscores. In every base up to 16 a number is read back from the digits that it is written
with. -/

namespace BlockIndexer.Text

/-- The character is the digit `d` of the base, letters in either case. -/
def IsDigit (base : Nat) (c : Char) (d : Nat) : Prop :=
  d < base ∧ (c = Nat.digitChar d ∨ c = (Nat.digitChar d).toUpper)

/-- The characters are these digits of the base, with underscores anywhere among them. -/
inductive Spells (base : Nat) : List Char → List Nat → Prop where
  | nil : Spells base [] []
  | underscore {cs : List Char} {ds : List Nat} : Spells base cs ds → Spells base ('_' :: cs) ds
  | digit {c : Char} {cs : List Char} {d : Nat} {ds : List Nat} :
      IsDigit base c d → Spells base cs ds → Spells base (c :: cs) (d :: ds)

/-- The markers that a numeral can begin with, and the base that each of them chooses. -/
def markers : List (List Char × Nat) :=
  [([], 10), (['0', 'x'], 16), (['0', 'X'], 16), (['0', 'o'], 8), (['0', 'O'], 8),
    (['0', 'b'], 2), (['0', 'B'], 2)]

variable {base : Nat}

/-! ### Digits -/

theorem between_iff {a b c : Char} :
    a ≤ c ∧ c ≤ b ↔ a.toNat ≤ c.toNat ∧ c.toNat ≤ b.toNat := Iff.rfl

theorem digit?_eq_some {c : Char} {d : Nat} (h : digit? c = some d) (small : d < 16) :
    c = Nat.digitChar d ∨ c = (Nat.digitChar d).toUpper := by
  have decimal : ∀ d < 10, Char.ofNat (d + 48) = Nat.digitChar d := by decide
  have lower : ∀ d < 16, 10 ≤ d → Char.ofNat (d + 87) = Nat.digitChar d := by decide
  have upper : ∀ d < 16, 10 ≤ d → Char.ofNat (d + 55) = (Nat.digitChar d).toUpper := by decide
  have code : Char.ofNat c.toNat = c := Char.ofNat_toNat c
  simp only [digit?, between_iff, Char.reduceToNat] at h
  split at h
  next inside =>
    have value : c.toNat = d + 48 := by
      have := Option.some.inj h
      omega
    rw [← code, value]
    exact .inl (decimal d (by omega))
  split at h
  next inside =>
    have := Option.some.inj h
    have value : c.toNat = d + 87 := by omega
    rw [← code, value]
    exact .inl (lower d small (by omega))
  split at h
  next inside =>
    have := Option.some.inj h
    have value : c.toNat = d + 55 := by omega
    rw [← code, value]
    exact .inr (upper d small (by omega))
  next => contradiction

theorem digitBelow?_eq_some_iff (few : base ≤ 16) {c : Char} {d : Nat} :
    digitBelow? base c = some d ↔ IsDigit base c d := by
  rw [digitBelow?, Option.filter_eq_some_iff, decide_eq_true_iff, and_comm, IsDigit]
  refine and_congr_right fun small => ⟨fun h => digit?_eq_some h (by omega), ?_⟩
  have worth : ∀ d < 16, digit? (Nat.digitChar d) = some d ∧
      digit? (Nat.digitChar d).toUpper = some d := by decide
  rintro (rfl | rfl)
  · exact (worth d (by omega)).1
  · exact (worth d (by omega)).2

theorem ne_underscore_of_isDigit (few : base ≤ 16) {c : Char} {d : Nat} (h : IsDigit base c d) :
    c ≠ '_' := by
  rintro rfl
  have read := (digitBelow?_eq_some_iff few).mpr h
  have other : digit? '_' = none := by decide
  rw [digitBelow?, other] at read
  contradiction

/-! ### Runs of digits -/

theorem natOfDigits?_append (base : Nat) (as bs : List Char) (n : Nat) :
    natOfDigits? base (as ++ bs) n = (natOfDigits? base as n).bind (natOfDigits? base bs) := by
  fun_induction natOfDigits? base as n with
  | case1 n => rfl
  | case2 cs n ih => exact ih
  | case3 c cs n digit ih =>
    rw [List.cons_append, natOfDigits?.eq_3 _ _ _ _ digit, Option.bind_assoc]
    exact congrArg (Option.bind _) (funext ih)

/-- Digits after `n` are read as the number that they continue `n` to. -/
theorem natOfDigits?_eq_some_iff (few : base ≤ 16) {cs : List Char} {n m : Nat} :
    natOfDigits? base cs n = some m ↔
      ∃ ds, Spells base cs ds ∧ ds.foldl (fun n d => base * n + d) n = m := by
  constructor
  · intro read
    fun_induction natOfDigits? base cs n with
    | case1 n => exact ⟨[], .nil, Option.some.inj read⟩
    | case2 cs n ih =>
      obtain ⟨ds, spelt, value⟩ := ih read
      exact ⟨ds, .underscore spelt, value⟩
    | case3 c cs n other ih =>
      obtain ⟨d, digit, rest⟩ := Option.bind_eq_some_iff.mp read
      obtain ⟨ds, spelt, value⟩ := ih d rest
      exact ⟨d :: ds, .digit ((digitBelow?_eq_some_iff few).mp digit) spelt, value⟩
  · rintro ⟨ds, spelt, value⟩
    induction spelt generalizing n with
    | nil => exact congrArg some value
    | underscore _ ih => exact ih value
    | digit digit _ ih =>
      rw [natOfDigits?.eq_3 _ _ _ _ (ne_underscore_of_isDigit few digit),
        (digitBelow?_eq_some_iff few).mpr digit]
      exact ih value

theorem foldl_eq_ofDigits (base : Nat) (ds : List Nat) :
    ds.foldl (fun n d => base * n + d) 0 = Nat.ofDigits base ds.reverse := by
  rw [Nat.ofDigits_eq_foldr, List.foldr_reverse]
  simp only [Nat.cast_id, Nat.add_comm]

/-! ### Numerals -/

theorem base_of_mem_markers {marker : List Char} (mem : (marker, base) ∈ markers) : base ≤ 16 := by
  have all : ∀ entry ∈ markers, entry.2 ≤ 16 := by decide
  exact all _ mem

/-- What a numeral begins with is a marker, or it has none. -/
theorem exists_marker (cs : List Char) :
    ∃ marker, (marker, (splitBase cs).1) ∈ markers ∧ cs = marker ++ (splitBase cs).2 := by
  unfold splitBase
  split
  · exact ⟨['0', 'x'], by simp [markers], rfl⟩
  · exact ⟨['0', 'X'], by simp [markers], rfl⟩
  · exact ⟨['0', 'o'], by simp [markers], rfl⟩
  · exact ⟨['0', 'O'], by simp [markers], rfl⟩
  · exact ⟨['0', 'b'], by simp [markers], rfl⟩
  · exact ⟨['0', 'B'], by simp [markers], rfl⟩
  · exact ⟨[], by simp [markers], rfl⟩

theorem mem_of_spells {cs : List Char} {ds : List Nat} (spelt : Spells base cs ds) {c : Char}
    (mem : c ∈ cs) : c = '_' ∨ ∃ d, IsDigit base c d := by
  induction spelt with
  | nil => contradiction
  | underscore _ ih =>
    rcases List.mem_cons.mp mem with rfl | mem
    · exact .inl rfl
    · exact ih mem
  | @digit _ _ d _ digit _ ih =>
    rcases List.mem_cons.mp mem with rfl | mem
    · exact .inr ⟨d, digit⟩
    · exact ih mem

/-- The letters of the markers are no decimal digits, so digits alone are not taken for a marked
numeral. -/
theorem splitBase_of_spells {cs : List Char} {ds : List Nat} (spelt : Spells 10 cs ds) :
    splitBase cs = (10, cs) := by
  have letters : ∀ c ∈ ['x', 'X', 'o', 'O', 'b', 'B'], c ≠ '_' ∧ digitBelow? 10 c = none := by
    simp [digitBelow?, digit?]
  have none : ∀ c ∈ ['x', 'X', 'o', 'O', 'b', 'B'], c ∉ cs := by
    intro c letter mem
    obtain ⟨other, unread⟩ := letters c letter
    rcases mem_of_spells spelt mem with rfl | ⟨d, digit⟩
    · exact other rfl
    · rw [(digitBelow?_eq_some_iff (by decide)).mpr digit] at unread
      cases unread
  unfold splitBase
  split
  · exact absurd (by simp) (none 'x' (by decide))
  · exact absurd (by simp) (none 'X' (by decide))
  · exact absurd (by simp) (none 'o' (by decide))
  · exact absurd (by simp) (none 'O' (by decide))
  · exact absurd (by simp) (none 'b' (by decide))
  · exact absurd (by simp) (none 'B' (by decide))
  · rfl

theorem splitBase_marked {marker digits : List Char} {ds : List Nat}
    (marked : (marker, base) ∈ markers) (spelt : Spells base digits ds) :
    splitBase (marker ++ digits) = (base, digits) := by
  simp only [markers, List.mem_cons, List.not_mem_nil, or_false, Prod.mk.injEq] at marked
  rcases marked with ⟨rfl, rfl⟩ | ⟨rfl, rfl⟩ | ⟨rfl, rfl⟩ | ⟨rfl, rfl⟩ | ⟨rfl, rfl⟩ | ⟨rfl, rfl⟩ |
    ⟨rfl, rfl⟩
  · exact splitBase_of_spells spelt
  all_goals rfl

/-- A numeral is a marker with digits of its base, and is read as the number that they write. -/
theorem numeral?_eq_some_iff {cs : List Char} {n : Nat} :
    numeral? cs = some n ↔ ∃ marker base digits ds, cs = marker ++ digits ∧
      (marker, base) ∈ markers ∧ Spells base digits ds ∧ Nat.ofDigits base ds.reverse = n := by
  constructor
  · intro read
    obtain ⟨marker, marked, cut⟩ := exists_marker cs
    obtain ⟨ds, spelt, value⟩ := (natOfDigits?_eq_some_iff (base_of_mem_markers marked)).mp read
    rw [foldl_eq_ofDigits] at value
    exact ⟨marker, _, _, ds, cut, marked, spelt, value⟩
  · rintro ⟨marker, base, digits, ds, rfl, marked, spelt, value⟩
    rw [← foldl_eq_ofDigits] at value
    rw [numeral?, splitBase_marked marked spelt]
    exact (natOfDigits?_eq_some_iff (base_of_mem_markers marked)).mpr ⟨ds, spelt, value⟩

/-! ### Numbers read back -/

theorem natOfDigits?_digitChar {d : Nat} (small : d < base) (few : base ≤ 16) (n : Nat) :
    natOfDigits? base [Nat.digitChar d] n = some (base * n + d) :=
  (natOfDigits?_eq_some_iff few).mpr ⟨[d], .digit ⟨small, .inl rfl⟩ .nil, rfl⟩

theorem natOfDigits?_toDigits (positional : 1 < base) (few : base ≤ 16) (n : Nat) :
    natOfDigits? base (Nat.toDigits base n) 0 = some n := by
  induction n using Nat.strongRecOn with
  | ind n ih =>
    rw [Nat.toDigits_eq_if positional]
    split
    next small => rw [natOfDigits?_digitChar small few, Nat.mul_zero, Nat.zero_add]
    next large =>
      have shorter : n / base < n := Nat.div_lt_self (by omega) positional
      rw [natOfDigits?_append, ih (n / base) shorter, Option.bind_some,
        natOfDigits?_digitChar (Nat.mod_lt n (by omega)) few, Nat.div_add_mod]

theorem numeral?_hexNumeral (n : Nat) : numeral? (hexNumeral n).toList = some n := by
  have read : natOfDigits? 16 (Nat.toDigits 16 n) 0 = some n :=
    natOfDigits?_toDigits (by decide) (by decide) n
  rw [hexNumeral, String.toList_append, String.toList_ofList, String.toList_ofList]
  exact read

end BlockIndexer.Text
