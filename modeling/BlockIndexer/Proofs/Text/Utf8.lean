import BlockIndexer.Text.Symbol

/-! The bytes of a text in UTF-8 spell that text: each character is read back from its bytes, with
whatever follows them left over. -/

namespace BlockIndexer.Text

theorem toList_loop_eq (bytes : ByteArray) (i : Nat) (before : List UInt8) :
    ByteArray.toList.loop bytes i before = before.reverse ++ bytes.data.toList.drop i := by
  fun_induction ByteArray.toList.loop bytes i before with
  | case1 i before inside ih =>
    have here : i < bytes.data.toList.length := inside
    rw [ih, List.drop_eq_getElem_cons here, List.reverse_cons, List.append_assoc]
    simp [ByteArray.get!, inside]
  | case2 i before outside =>
    have past : bytes.data.toList.length ≤ i := Nat.not_lt.mp outside
    rw [List.drop_eq_nil_of_le past, List.append_nil]

theorem utf8_eq_flatMap (s : String) : utf8 s = s.toList.flatMap String.utf8EncodeChar := by
  rw [utf8, ByteArray.toList, toList_loop_eq]
  show s.toByteArray.data.toList = _
  rw [← String.utf8Encode_toList, List.utf8Encode, List.toList_data_toByteArray]

namespace Symbol

theorem toNat_byte {n : Nat} (small : n < 256) : (UInt8.ofNat n).toNat = n :=
  UInt8.toNat_ofNat_of_lt' small

theorem continuation?_ofNat (n : Nat) :
    continuation? (UInt8.ofNat (n % 64 + 0x80)) = some (n % 64) := by
  have value := toNat_byte (show n % 64 + 0x80 < 256 by omega)
  have inside : 0x80 ≤ UInt8.ofNat (n % 64 + 0x80) ∧ UInt8.ofNat (n % 64 + 0x80) < 0xC0 := by
    rw [UInt8.le_iff_toNat_le, UInt8.lt_iff_toNat_lt, value]
    simp only [UInt8.reduceToNat]
    omega
  rw [continuation?, if_pos inside, value, Nat.add_sub_cancel]

theorem character?_toNat {least n : Nat} {c : Char} (same : n = c.toNat) (enough : least ≤ n) :
    character? least n = some c := by
  subst same
  rw [character?, dif_pos ⟨enough, c.valid⟩]
  rfl

variable {c : Char} {rest : List UInt8}

theorem next_of_one (small : c.toNat < 0x80) :
    next (UInt8.ofNat c.toNat) rest = (.char c, rest) := by
  have value := toNat_byte (show c.toNat < 256 by omega)
  have ascii : UInt8.ofNat c.toNat < 0x80 := by
    rw [UInt8.lt_iff_toNat_lt, value]
    exact small
  cases rest with
  | nil => simp only [next, if_pos ascii, value, Char.ofNat_toNat]
  | cons b rest => simp only [next, if_pos ascii, value, Char.ofNat_toNat]

theorem next_of_two {a b : UInt8} (large : 0x80 ≤ a) (read : ofTwo? a b = some c) :
    next a (b :: rest) = (.char c, rest) := by
  simp only [next, if_neg (UInt8.not_lt.mpr large), read]

theorem next_of_three {a b d : UInt8} (large : 0xE0 ≤ a) (read : ofThree? a b d = some c) :
    next a (b :: d :: rest) = (.char c, rest) := by
  have other : ofTwo? a b = none := if_neg fun inside => UInt8.not_lt.mpr large inside.2
  have ascii : 0x80 ≤ a := UInt8.le_trans (by decide) large
  simp only [next, if_neg (UInt8.not_lt.mpr ascii), other, read]

theorem next_of_four {a b d e : UInt8} (large : 0xF0 ≤ a) (read : ofFour? a b d e = some c) :
    next a (b :: d :: e :: rest) = (.char c, rest) := by
  have three : ofThree? a b d = none := if_neg fun inside => UInt8.not_lt.mpr large inside.2
  have least : 0xE0 ≤ a := UInt8.le_trans (by decide) large
  have two : ofTwo? a b = none := if_neg fun inside => UInt8.not_lt.mpr least inside.2
  have ascii : 0x80 ≤ a := UInt8.le_trans (by decide) least
  simp only [next, if_neg (UInt8.not_lt.mpr ascii), two, three, read]

/-- A first byte holds `n` above the mark that tells how many bytes there are. -/
theorem lead {mark limit n : Nat} (below : n + mark < limit) (byte : limit < 256) :
    (UInt8.ofNat mark ≤ UInt8.ofNat (n + mark) ∧ UInt8.ofNat (n + mark) < UInt8.ofNat limit) ∧
      (UInt8.ofNat (n + mark)).toNat - mark = n := by
  rw [UInt8.le_iff_toNat_le, UInt8.lt_iff_toNat_lt, toNat_byte (by omega), toNat_byte (by omega),
    toNat_byte byte]
  omega

theorem exists_next (c : Char) (rest : List UInt8) : ∃ a bytes,
    String.utf8EncodeChar c = a :: bytes ∧ next a (bytes ++ rest) = (.char c, rest) := by
  have bound : c.toNat < 0x110000 := by
    have valid : c.toNat < 0xD800 ∨ 0xDFFF < c.toNat ∧ c.toNat < 0x110000 := c.valid
    omega
  have code : c.val.toNat = c.toNat := rfl
  unfold String.utf8EncodeChar
  simp only [code]
  split
  next one => exact ⟨_, _, rfl, next_of_one (Nat.lt_succ_of_le one)⟩
  split
  next more two =>
    have first := lead (show c.toNat / 64 % 0x20 + 0xC0 < 0xE0 by omega) (by decide)
    refine ⟨_, _, rfl, next_of_two (UInt8.le_trans (by decide) first.1.1) ?_⟩
    refine (if_pos first.1).trans ?_
    rw [first.2, continuation?_ofNat, Option.bind_some]
    exact character?_toNat (by omega) (by omega)
  split
  next more three =>
    have first := lead (show c.toNat / 4096 % 0x10 + 0xE0 < 0xF0 by omega) (by decide)
    refine ⟨_, _, rfl, next_of_three first.1.1 ?_⟩
    refine (if_pos first.1).trans ?_
    rw [first.2, continuation?_ofNat, Option.bind_some, continuation?_ofNat, Option.bind_some]
    exact character?_toNat (by omega) (by omega)
  next more =>
    have first := lead (show c.toNat / 262144 % 0x08 + 0xF0 < 0xF8 by omega) (by decide)
    refine ⟨_, _, rfl, next_of_four first.1.1 ?_⟩
    refine (if_pos first.1).trans ?_
    rw [first.2, continuation?_ofNat, Option.bind_some, continuation?_ofNat, Option.bind_some,
      continuation?_ofNat, Option.bind_some]
    exact character?_toNat (by omega) (by omega)

theorem scan_flatMap (before : List Symbol) (cs : List Char) :
    scan before (cs.flatMap String.utf8EncodeChar) = before.reverse ++ cs.map .char := by
  induction cs generalizing before with
  | nil => rw [List.flatMap_nil, scan, List.map_nil, List.append_nil]
  | cons c cs ih =>
    obtain ⟨a, bytes, encoded, first⟩ := exists_next c (cs.flatMap String.utf8EncodeChar)
    rw [List.flatMap_cons, encoded, List.cons_append, scan, first, ih, List.map_cons,
      List.reverse_cons, List.append_assoc]
    rfl

theorem ofBytes_utf8 (s : String) : ofBytes (utf8 s) = ofString s := by
  rw [ofBytes, utf8_eq_flatMap, scan_flatMap]
  rfl

end Symbol

end BlockIndexer.Text
