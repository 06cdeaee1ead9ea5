import BlockIndexer.Proofs.Json.Token
import BlockIndexer.Proofs.Text.Numeral
import BlockIndexer.Quantity
import Mathlib.Data.List.TakeWhile

/-! The numbers that quantities stand for. A literal has a value exactly if it is a numeral, blanks
around it apart, that writes a number of at most 256 bits. Its rendering is the decimal text of
that number, which is its own rendering. -/

namespace BlockIndexer

namespace Text

/-! ### Blanks around a text -/

variable {before core after : List Char}

theorem trimLeft_cons {c : Char} {cs : List Char} (solid : isBlank c = false) :
    trimLeft (c :: cs) = c :: cs := by
  apply List.dropWhile_cons_of_neg
  rw [solid]
  exact Bool.false_ne_true

theorem trimLeft_of_solid (solid : ∀ c ∈ core, isBlank c = false) : trimLeft core = core := by
  cases core with
  | nil => rfl
  | cons c core => exact trimLeft_cons (solid c List.mem_cons_self)

theorem trim_of_blank_ends (blankBefore : ∀ c ∈ before, isBlank c = true)
    (blankAfter : ∀ c ∈ after, isBlank c = true) (solid : ∀ c ∈ core, isBlank c = false) :
    trim (before ++ core ++ after) = core := by
  have left : trimLeft (before ++ core ++ after) = trimLeft (core ++ after) := by
    rw [List.append_assoc]
    exact List.dropWhile_append_of_pos blankBefore
  rw [trim, left]
  cases core with
  | nil =>
    have nothing : trimLeft after = [] := List.dropWhile_eq_nil_iff.mpr blankAfter
    rw [List.nil_append, nothing]
    rfl
  | cons c core =>
    have first : trimLeft (c :: core ++ after) = c :: core ++ after :=
      trimLeft_cons (solid c List.mem_cons_self)
    have right : trimLeft (after.reverse ++ (c :: core).reverse) = trimLeft (c :: core).reverse :=
      List.dropWhile_append_of_pos fun c mem => blankAfter c (List.mem_reverse.mp mem)
    rw [first, List.reverse_append, right,
      trimLeft_of_solid fun c mem => solid c (List.mem_reverse.mp mem), List.reverse_reverse]

theorem exists_blank_ends (cs : List Char) :
    ∃ before after, cs = before ++ trim cs ++ after ∧ (∀ c ∈ before, isBlank c = true) ∧
      ∀ c ∈ after, isBlank c = true := by
  let rest := (trimLeft cs).reverse
  refine ⟨cs.takeWhile isBlank, (rest.takeWhile isBlank).reverse, ?_, fun c mem => ?_,
    fun c mem => ?_⟩
  · have right : (trimLeft rest).reverse ++ (rest.takeWhile isBlank).reverse = trimLeft cs := by
      rw [← List.reverse_append, trimLeft, List.takeWhile_append_dropWhile, List.reverse_reverse]
    rw [List.append_assoc, trim, right]
    exact List.takeWhile_append_dropWhile.symm
  · exact List.mem_takeWhile_imp mem
  · exact List.mem_takeWhile_imp (List.mem_reverse.mp mem)

/-! ### Literals -/

/-- Blanks, a marker, digits of its base, and blanks again. The digits write the number. -/
inductive Writes : List Char → Nat → Prop where
  | intro {before marker digits after : List Char} {base : Nat} {ds : List Nat} :
      (∀ c ∈ before, isBlank c = true) → (marker, base) ∈ markers → Spells base digits ds →
      (∀ c ∈ after, isBlank c = true) →
      Writes (before ++ (marker ++ digits) ++ after) (Nat.ofDigits base ds.reverse)

/-- The characters that a numeral may have. -/
def numeralCharacters : List Char :=
  ['0', '1', '2', '3', '4', '5', '6', '7', '8', '9', 'a', 'b', 'c', 'd', 'e', 'f', 'A', 'B', 'C',
    'D', 'E', 'F', 'x', 'X', 'o', 'O', '_']

theorem mem_numeralCharacters {marker digits : List Char} {base : Nat} {ds : List Nat}
    (marked : (marker, base) ∈ markers) (spelt : Spells base digits ds) {c : Char}
    (mem : c ∈ marker ++ digits) : c ∈ numeralCharacters := by
  rcases List.mem_append.mp mem with mem | mem
  · have all : ∀ entry ∈ markers, ∀ c ∈ entry.1, c ∈ numeralCharacters := by
      simp [markers, numeralCharacters]
    exact all _ marked c mem
  · have all : ∀ d < 16, Nat.digitChar d ∈ numeralCharacters ∧
        (Nat.digitChar d).toUpper ∈ numeralCharacters := by decide
    have few := base_of_mem_markers marked
    rcases mem_of_spells spelt mem with rfl | ⟨d, small, rfl | rfl⟩
    · decide
    · exact (all d (by omega)).1
    · exact (all d (by omega)).2

theorem isBlank_of_mem_numeralCharacters {c : Char} (mem : c ∈ numeralCharacters) :
    isBlank c = false := by
  have all : ∀ c ∈ numeralCharacters, isBlank c = false :=
    List.forall_iff_forall_mem.mp (by decide)
  exact all c mem

theorem numeral?_trim_eq_some_iff {cs : List Char} {n : Nat} :
    numeral? (trim cs) = some n ↔ Writes cs n := by
  constructor
  · intro read
    obtain ⟨marker, base, digits, ds, cut, marked, spelt, rfl⟩ := numeral?_eq_some_iff.mp read
    obtain ⟨before, after, ends, blankBefore, blankAfter⟩ := exists_blank_ends cs
    rw [cut] at ends
    rw [ends]
    exact .intro blankBefore marked spelt blankAfter
  · rintro ⟨blankBefore, marked, spelt, blankAfter⟩
    rw [trim_of_blank_ends blankBefore blankAfter fun c mem =>
      isBlank_of_mem_numeralCharacters (mem_numeralCharacters marked spelt mem)]
    exact numeral?_eq_some_iff.mpr ⟨_, _, _, _, rfl, marked, spelt, rfl⟩

/-- A literal that writes a number has no other characters than its blanks and those of
numerals. -/
theorem Writes.mem {cs : List Char} {n : Nat} (writes : Writes cs n) {c : Char} (mem : c ∈ cs) :
    isBlank c = true ∨ c ∈ numeralCharacters := by
  obtain ⟨blankBefore, marked, spelt, blankAfter⟩ := writes
  rcases List.mem_append.mp mem with mem | mem
  · rcases List.mem_append.mp mem with mem | mem
    · exact .inl (blankBefore c mem)
    · exact .inr (mem_numeralCharacters marked spelt mem)
  · exact .inl (blankAfter c mem)

theorem spells_underscores {base : Nat} {cs : List Char} (underscores : ∀ c ∈ cs, c = '_') :
    Spells base cs [] := by
  induction cs with
  | nil => exact .nil
  | cons c cs ih =>
    obtain ⟨rfl, rest⟩ := List.forall_mem_cons.mp underscores
    exact .underscore (ih rest)

/-! ### Decimal texts -/

/-- The usual decimal text of a number. -/
structure Canonical (text : String) (n : Nat) : Prop where
  nonempty : text.toList ≠ []
  digits : ∀ c ∈ text.toList, c.isDigit = true
  leading : text.toList.head? = some '0' → text = "0"
  value : Nat.ofDigitChars 10 text.toList 0 = n

theorem toList_repr (n : Nat) : n.repr.toList = Nat.toDigits 10 n := by
  rw [Nat.repr_eq_ofList_toDigits, String.toList_ofList]

theorem canonical_repr (n : Nat) : Canonical n.repr n := by
  constructor
  case nonempty =>
    rw [toList_repr]
    exact Nat.toDigits_ne_nil
  case digits =>
    intro c mem
    rw [toList_repr] at mem
    exact Nat.isDigit_of_mem_toDigits (by decide) (by decide) mem
  case leading =>
    intro zero
    obtain ⟨ds, chars, -, first⟩ := Json.exists_digits n
    rw [toList_repr, chars, Json.Digits.chars, Json.Digits.toList, List.map_cons, List.head?_cons,
      Option.some.injEq, Nat.digitChar_eq_zero] at zero
    rw [first (Fin.ext zero)]
    rfl
  case value =>
    rw [toList_repr]
    exact Nat.ofDigitChars_ten_toDigits

theorem writes_repr (n : Nat) : Writes n.repr.toList n := by
  have read : natOfDigits? 10 (Nat.toDigits 10 n) 0 = some n :=
    natOfDigits?_toDigits (by decide) (by decide) n
  obtain ⟨ds, spelt, value⟩ := (natOfDigits?_eq_some_iff (by decide)).mp read
  have writes : Writes ([] ++ ([] ++ Nat.toDigits 10 n) ++ []) (Nat.ofDigits 10 ds.reverse) :=
    .intro (List.forall_mem_nil _) (by decide) spelt (List.forall_mem_nil _)
  rw [← foldl_eq_ofDigits, value, List.nil_append, List.nil_append, List.append_nil] at writes
  rwa [toList_repr]

end Text

namespace Quantity

open Text (Writes Canonical)

variable {q : Quantity} {field : String} {policy : NumericPolicy} {v : Nat}

theorem value?_eq_some_iff : q.value? = some v ↔ Writes q.literal.toList v ∧ v < 2 ^ 256 := by
  rw [value?, Text.word?, Option.filter_eq_some_iff, Text.numeral?_trim_eq_some_iff,
    decide_eq_true_iff, FitsIn, Nat.one_shiftLeft]

theorem value?_eq_none_iff : q.value? = none ↔ ∀ v, Writes q.literal.toList v → 2 ^ 256 ≤ v := by
  rw [Option.eq_none_iff_forall_ne_some]
  simp only [ne_eq, value?_eq_some_iff, not_and, Nat.not_lt]

theorem render_of_value (value : q.value? = some v) : q.render policy field = .ok v.repr := by
  simp only [render, decimal?, value, Option.map_some]

theorem render_of_none (none : q.value? = none) : q.render policy field =
    match policy with
    | .lenient => .ok "0"
    | .strict => .error (.numeric field q.literal) := by
  simp only [render, decimal?, none, Option.map_none]
  cases policy <;> rfl

theorem value?_ofNat (fits : v < 2 ^ 256) : (ofNat v).value? = some v :=
  value?_eq_some_iff.mpr ⟨Text.writes_repr v, fits⟩

/-- The values of quantities are exactly the numbers below `2 ^ 256` that their literals write.
Under every policy such a number is rendered as its usual decimal text, which is a literal of the
same number and its own rendering. Digits may be missing, which makes a zero. A literal without a
value, such as one with a sign or of a number that is too large, is an error that gives it as it
is, or zero. -/
theorem render_exact (q : Quantity) (field : String) :
    (∀ v, q.value? = some v ↔ Writes q.literal.toList v ∧ v < 2 ^ 256) ∧
    (∀ v, Writes q.literal.toList v → v < 2 ^ 256 → ∃ text, Canonical text v ∧
      (∀ policy, q.render policy field = .ok text) ∧ (⟨text⟩ : Quantity).value? = some v ∧
      (∀ policy field', (⟨text⟩ : Quantity).render policy field' = .ok text) ∧
      (ofNat v).value? = some v) ∧
    (∀ before marker base digits after, (∀ c ∈ before, Text.isBlank c = true) →
      (marker, base) ∈ Text.markers → (∀ c ∈ digits, c = '_') →
      (∀ c ∈ after, Text.isBlank c = true) →
      q.literal.toList = before ++ (marker ++ digits) ++ after → q.value? = some 0) ∧
    ((∀ v, Writes q.literal.toList v → 2 ^ 256 ≤ v) → q.value? = none ∧
      q.render .strict field = .error (.numeric field q.literal) ∧
      q.render .lenient field = .ok "0") ∧
    ∀ sign ∈ ['+', '-'], sign ∈ q.literal.toList → q.value? = none := by
  refine ⟨fun v => value?_eq_some_iff, fun v writes fits => ?_, ?_, fun large => ?_, ?_⟩
  · have value := value?_eq_some_iff.mpr ⟨writes, fits⟩
    exact ⟨v.repr, Text.canonical_repr v, fun _ => render_of_value value, value?_ofNat fits,
      fun _ _ => render_of_value (value?_ofNat fits), value?_ofNat fits⟩
  · intro before marker base digits after blankBefore marked underscores blankAfter literal
    apply value?_eq_some_iff.mpr
    rw [literal]
    exact ⟨.intro blankBefore marked (Text.spells_underscores underscores) blankAfter,
      Nat.two_pow_pos 256⟩
  · have none := value?_eq_none_iff.mpr large
    exact ⟨none, render_of_none none, render_of_none none⟩
  · intro sign one mem
    have other : ∀ sign ∈ ['+', '-'], Text.isBlank sign = false ∧
        sign ∉ Text.numeralCharacters := List.forall_iff_forall_mem.mp (by decide)
    obtain ⟨solid, foreign⟩ := other sign one
    apply value?_eq_none_iff.mpr
    intro v writes
    rcases writes.mem mem with blank | numeral
    · exact absurd (solid.symm.trans blank) Bool.false_ne_true
    · exact absurd numeral foreign

/-- The largest value, with blanks that are not ASCII, underscores and digits in both cases. -/
def largest : Quantity :=
  ⟨"\u2003\n0X_FFFFFFFFffffffffFFFFFFFFffffffffFFFFFFFFffffffffFFFFFFFFffffffff__\u00a0"⟩

/-- One more than the largest value. -/
def tooLarge : Quantity := ⟨Text.hexNumeral (2 ^ 256)⟩

theorem limits_exact :
    (∃ text, Canonical text (2 ^ 256 - 1) ∧ (∀ policy, largest.render policy "value" = .ok text) ∧
      (⟨text⟩ : Quantity).value? = some (2 ^ 256 - 1)) ∧
    tooLarge.render .strict "value" = .error (.numeric "value" tooLarge.literal) ∧
    tooLarge.render .lenient "value" = .ok "0" := by
  constructor
  · have writes : Writes largest.literal.toList (2 ^ 256 - 1) :=
      Text.numeral?_trim_eq_some_iff.mp (by decide +kernel)
    obtain ⟨text, canonical, renders, value, -⟩ :=
      (render_exact largest "value").2.1 _ writes (by decide)
    exact ⟨text, canonical, renders, value⟩
  · have read : Text.numeral? (Text.trim tooLarge.literal.toList) = some (2 ^ 256) := by
      decide +kernel
    have large : ∀ v, Writes tooLarge.literal.toList v → 2 ^ 256 ≤ v := by
      intro v writes
      cases read.symm.trans (Text.numeral?_trim_eq_some_iff.mpr writes)
      exact Nat.le_refl _
    exact ((render_exact tooLarge "value").2.2.2.1 large).2

end Quantity

end BlockIndexer
