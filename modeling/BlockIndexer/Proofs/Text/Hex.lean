import BlockIndexer.Text.Hex

/-! Bytes are read from their hexadecimal text, whatever the case of its digits and whether it is
marked or not. -/

namespace BlockIndexer.Text

theorem digitBelow?_digitChar : ∀ d < 16, digitBelow? 16 (Nat.digitChar d) = some d := by decide

namespace Hex

theorem digit?_digitChar {d : Nat} (small : d < 16) :
    digit? (Nat.digitChar d) = some (UInt8.ofNat d) := by
  rw [digit?, digitBelow?_digitChar d small, Option.map_some]

/-- A digit in either case. -/
theorem digit?_of_toLower {c : Char} {d : Nat} (small : d < 16)
    (same : c.toLower = Nat.digitChar d) : digit? c = some (UInt8.ofNat d) := by
  by_cases upper : c.val ≥ 'A'.val ∧ c.val ≤ 'Z'.val
  · have letters : ∀ n < 26, ∀ d < 16, (Char.ofNat (65 + n)).toLower = Nat.digitChar d →
        digit? (Char.ofNat (65 + n)) = some (UInt8.ofNat d) := by
      decide
    have low : 65 ≤ c.toNat := upper.1
    have high : c.toNat ≤ 90 := upper.2
    have letter : c = Char.ofNat (65 + (c.toNat - 65)) := by
      rw [Nat.add_sub_cancel' low, Char.ofNat_toNat]
    rw [letter] at same ⊢
    exact letters _ (by omega) d small same
  · have lower : c.toLower = c := dif_neg upper
    rw [← lower, same]
    exact digit?_digitChar small

/-- The ways to write bytes: their digits in either case, marked or not. -/
inductive Spells (bytes : List UInt8) : List Char → Prop where
  | bare {digits : List Char} (same : digits.map Char.toLower = bytes.flatMap byteDigits) :
      Spells bytes digits
  | marked {digits : List Char} (same : digits.map Char.toLower = bytes.flatMap byteDigits) :
      Spells bytes ('0' :: 'x' :: digits)

theorem toLower_byteDigits : ∀ b : UInt8, (byteDigits b).map Char.toLower = byteDigits b := by
  have digits : ∀ d < 16, (Nat.digitChar d).toLower = Nat.digitChar d := by decide
  intro b
  have bound := b.toNat_lt
  simp only [byteDigits, List.map_cons, List.map_nil,
    digits (b.toNat / 16) (by omega), digits (b.toNat % 16) (by omega)]

theorem spells_encode (bytes : List UInt8) : Spells bytes (encode bytes) := by
  refine .marked ?_
  rw [List.map_flatMap]
  exact congrArg (bytes.flatMap ·) (funext toLower_byteDigits)

theorem pairs?_of_toLower {bytes : List UInt8} {digits : List Char}
    (same : digits.map Char.toLower = bytes.flatMap byteDigits) : pairs? digits = some bytes := by
  induction bytes generalizing digits with
  | nil =>
    rw [List.map_eq_nil_iff.mp same]
    rfl
  | cons b bytes ih =>
    have bound := b.toNat_lt
    have value : UInt8.ofNat (b.toNat / 16) * 16 + UInt8.ofNat (b.toNat % 16) = b := by
      apply UInt8.toNat_inj.mp
      simp only [UInt8.toNat_add, UInt8.toNat_mul, UInt8.toNat_ofNat', UInt8.reduceToNat]
      omega
    obtain ⟨high, digits, rfl, highSame, same⟩ := List.map_eq_cons_iff.mp same
    obtain ⟨low, digits, rfl, lowSame, same⟩ := List.map_eq_cons_iff.mp same
    simp only [pairs?, digit?_of_toLower (show b.toNat / 16 < 16 by omega) highSame,
      digit?_of_toLower (show b.toNat % 16 < 16 by omega) lowSame, Option.bind_some, ih same,
      Option.map_some, value]

/-- Digits do not start with the marker. -/
theorem unmarked_of_toLower {bytes : List UInt8} {digits : List Char}
    (same : digits.map Char.toLower = bytes.flatMap byteDigits) : unmarked digits = digits := by
  have read := pairs?_of_toLower same
  unfold unmarked
  split
  next =>
    have unread : digit? 'x' = none := by decide
    simp [pairs?, unread] at read
  next =>
    have unread : digit? 'X' = none := by decide
    simp [pairs?, unread] at read
  next => rfl

theorem decode?_of_spells {bytes : List UInt8} {cs : List Char} (spells : Spells bytes cs) :
    decode? cs = some bytes := by
  cases spells with
  | bare same => rw [decode?, unmarked_of_toLower same, pairs?_of_toLower same]
  | marked same => exact pairs?_of_toLower same

end Hex

end BlockIndexer.Text
